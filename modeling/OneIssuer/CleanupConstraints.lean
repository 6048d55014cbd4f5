import OneIssuer.Cleanup
import OneIssuer.Zones

/-!
# What stops a cleanup

The cleanup loop of the application deletes parents whose children remain, so its deletes fire foreign-key
actions, and the actions fire the triggers of `access_tokens`. A trigger compares a token with its code
and its family. Every stored token agrees with them (`Run.authorized`), and a delete changes token, code
and family alike, so the triggers let the changes pass.

Two things stop a delete of sessions. A logout transaction keeps the session it names alive, and the
trigger refuses to change a token of a code exchange whose code is gone.

**What it does not establish.** What the application does after a batch that failed, and how long the
rows behind it stay.
-/

set_option autoImplicit false

namespace OneIssuer

open Relational Token Queries Store

variable {sha : Sha256} {zone : Zone} {entries : List Entry} {db after : Db}

/-! ## Tokens and their sources -/

/-- The token agrees with the rows it comes from, as far as they are there. -/
def AccessToken.Authorized (db : Db) (token : AccessToken) : Prop :=
  match token.issuanceSource with
  | .refreshToken => token.refreshConsistent db
  | .authorizationCode => ∀ id, token.authorizationCodeID = some id →
      token.codeConsistent db id ∧ token.codeFamilyConsistent db

def Db.Authorized (db : Db) : Prop := ∀ token ∈ db.accessTokens, token.Authorized db

/-- A row the triggers let in. -/
theorem authorized_of_insert {token : AccessToken} (allowed : token.insertViolation db = none) :
    token.Authorized db := by
  have consistent := firstViolation_eq_none.mp allowed (AccessToken.authorityViolation db none token)
    (by simp)
  rw [AccessToken.authorityViolation] at consistent
  rw [AccessToken.Authorized]
  cases source : token.issuanceSource with
  | refreshToken => simpa [source] using consistent
  | authorizationCode =>
    intro id named
    simp only [source, named, firstViolation_eq_none, List.mem_cons, List.not_mem_nil, or_false,
      forall_eq_or_imp, forall_eq, raised_eq_none, Bool.not_eq_false'] at consistent
    exact consistent

/-- A token that has a code comes from it. -/
theorem AccessToken.Authorized.source {token : AccessToken} (authorized : token.Authorized db) {id : Uuid}
    (named : token.authorizationCodeID = some id) : token.issuanceSource = .authorizationCode := by
  cases source : token.issuanceSource with
  | authorizationCode => rfl
  | refreshToken =>
    simp only [AccessToken.Authorized, source, AccessToken.refreshConsistent] at authorized
    split at authorized
    · simp [named] at authorized
    · cases authorized

/-! ## Rows that lose references

A change forgets sessions with `forgetSession` and codes with `forgetCode`. -/

section Forgetting

/-- A code that may have been consumed or have forgotten its session. -/
def CodeForgets (forgetSession : Option Uuid → Option Uuid) (old new : AuthorizationCode) : Prop :=
  new = { old with consumedAt := new.consumedAt, originSessionID := forgetSession old.originSessionID }

/-- A family that may have been revoked or have forgotten its code and session. -/
def FamilyForgets (forgetSession forgetCode : Option Uuid → Option Uuid) (old new : RefreshTokenFamily) :
    Prop :=
  new = { old with
    originAuthorizationCodeID := forgetCode old.originAuthorizationCodeID
    originSessionID := forgetSession old.originSessionID
    revokedAt := new.revokedAt, revokeReason := new.revokeReason }

/-- An access token that may have been revoked or have forgotten its code and session. -/
def AccessForgets (forgetSession forgetCode : Option Uuid → Option Uuid) (old new : AccessToken) : Prop :=
  new = { old with
    authorizationCodeID := forgetCode old.authorizationCodeID
    originSessionID := forgetSession old.originSessionID
    revokedAt := new.revokedAt, revokeReason := new.revokeReason }

theorem CodeForgets.refl (row : AuthorizationCode) : CodeForgets id row row := rfl

theorem FamilyForgets.refl (row : RefreshTokenFamily) : FamilyForgets id id row row := rfl

theorem AccessForgets.refl (row : AccessToken) : AccessForgets id id row row := rfl

variable {forgetSession forgetCode : Option Uuid → Option Uuid} {old new : AccessToken}

/-- The rows a token names are still there after a change. -/
structure AccessToken.KeepsSources (forgetSession forgetCode : Option Uuid → Option Uuid) (db after : Db)
    (token : AccessToken) : Prop where
  code : ∀ id code, forgetCode token.authorizationCodeID = some id → db.code? id = some code →
    ∃ kept, after.code? id = some kept ∧ CodeForgets forgetSession code kept
  family : ∀ id family, token.refreshFamilyID = some id → db.family? id = some family →
    ∃ kept, after.family? id = some kept ∧ FamilyForgets forgetSession forgetCode family kept
  generation : ∀ id generation, token.sourceRefreshTokenID = some id →
    db.generation? id = some generation →
    ∃ kept, after.generation? id = some kept ∧ kept.familyID = generation.familyID

theorem codeConsistent_forgets {id : Uuid} (forgets : AccessForgets forgetSession forgetCode old new)
    (keeps : old.KeepsSources forgetSession forgetCode db after)
    (named : new.authorizationCodeID = some id) (consistent : old.codeConsistent db id) :
    new.codeConsistent after id := by
  have stays : forgetCode old.authorizationCodeID = some id := by
    rw [forgets] at named
    exact named
  simp only [AccessToken.codeConsistent] at consistent ⊢
  cases found : db.code? id with
  | none => simp [found] at consistent
  | some code =>
    obtain ⟨kept, isKept, codeForgets⟩ := keeps.code id code stays found
    rw [forgets]
    simp only [found, isKept, Bool.and_eq_true, beq_iff_eq, and_assoc] at consistent ⊢
    obtain ⟨grant, user, client, scopes, origin, binding, unsourced⟩ := consistent
    rw [codeForgets]
    exact ⟨grant, user, client, scopes, by rw [origin], binding, unsourced⟩

theorem codeFamilyConsistent_forgets (forgets : AccessForgets forgetSession forgetCode old new)
    (keeps : old.KeepsSources forgetSession forgetCode db after)
    (consistent : old.codeFamilyConsistent db) : new.codeFamilyConsistent after := by
  have sameFamily : new.refreshFamilyID = old.refreshFamilyID := by rw [forgets]
  simp only [AccessToken.codeFamilyConsistent, sameFamily] at consistent ⊢
  cases named : old.refreshFamilyID with
  | none => rfl
  | some id =>
    cases found : db.family? id with
    | none => simp [named, found] at consistent
    | some family =>
      obtain ⟨kept, isKept, familyForgets⟩ := keeps.family id family named found
      rw [forgets]
      simp only [named, found, isKept, Bool.and_eq_true, beq_iff_eq, and_assoc] at consistent ⊢
      obtain ⟨code, grant, user, client, origin, binding, scopes, offline⟩ := consistent
      rw [familyForgets]
      exact ⟨by rw [code], grant, user, client, by rw [origin], binding, scopes, offline⟩

theorem refreshConsistent_forgets (forgetsNone : forgetCode none = none)
    (forgets : AccessForgets forgetSession forgetCode old new)
    (keeps : old.KeepsSources forgetSession forgetCode db after)
    (consistent : old.refreshConsistent db) : new.refreshConsistent after := by
  have sameFamily : new.refreshFamilyID = old.refreshFamilyID := by rw [forgets]
  have sameSource : new.sourceRefreshTokenID = old.sourceRefreshTokenID := by rw [forgets]
  simp only [AccessToken.refreshConsistent, sameFamily, sameSource] at consistent ⊢
  split at consistent
  · rename_i generation family isGeneration isFamily
    obtain ⟨sourceID, source, foundGeneration⟩ := Option.bind_eq_some_iff.mp isGeneration
    obtain ⟨familyID, named, foundFamily⟩ := Option.bind_eq_some_iff.mp isFamily
    obtain ⟨keptGeneration, isKeptGeneration, sameOwner⟩ :=
      keeps.generation sourceID generation source foundGeneration
    obtain ⟨kept, isKept, familyForgets⟩ := keeps.family familyID family named foundFamily
    rw [forgets]
    simp only [source, named, Option.bind_some, isKeptGeneration, isKept, Bool.and_eq_true, beq_iff_eq,
      and_assoc, sameOwner, Option.isNone_iff_eq_none] at consistent ⊢
    obtain ⟨owner, grant, user, client, origin, binding, scopes, uncoded⟩ := consistent
    rw [familyForgets]
    exact ⟨owner, grant, user, client, by rw [origin], binding, scopes, by rw [uncoded, forgetsNone]⟩
  · cases consistent

/-- A token that forgets what its code and family forget stays in agreement with them. -/
theorem AccessToken.Authorized.forgets (authorized : old.Authorized db)
    (clears : ∀ reference id, forgetCode reference = some id → reference = some id)
    (forgets : AccessForgets forgetSession forgetCode old new)
    (keeps : old.KeepsSources forgetSession forgetCode db after) : new.Authorized after := by
  have sameSource : new.issuanceSource = old.issuanceSource := by rw [forgets]
  have forgetsNone : forgetCode none = none := by
    cases forgotten : forgetCode none with
    | none => rfl
    | some id => cases clears none id forgotten
  simp only [AccessToken.Authorized, sameSource] at authorized ⊢
  split at authorized
  · exact refreshConsistent_forgets forgetsNone forgets keeps authorized
  · intro id named
    have wasNamed : old.authorizationCodeID = some id := by
      rw [forgets] at named
      exact clears _ _ named
    obtain ⟨ofCode, ofFamily⟩ := authorized id wasNamed
    exact ⟨codeConsistent_forgets forgets keeps named ofCode,
      codeFamilyConsistent_forgets forgets keeps ofFamily⟩

end Forgetting

/-! ## Statements keep the agreement -/

section Kept

variable {β : Type} {statement : Stmt β} {answer : β}

/-- A statement that deletes nothing forgets nothing. -/
theorem exec_codes_kept (keeps : statement.keepsRows) (executed : exec statement db = .ok (answer, after)) :
    Grows AuthorizationCode.id (CodeForgets id) db.authorizationCodes after.authorizationCodes := by
  by_cases writes : .authorizationCodes ∈ statement.writes
  · cases statement with
    | authorizationCodes s =>
      rw [exec] at executed
      obtain ⟨rows, ran, rfl⟩ := store_ok.mp executed
      exact s.exec_grows
        { authorizationCodes_respect db with
          refl := CodeForgets.refl
          moves := by rintro ⟨consumedAt⟩ row _; rfl } ran
    | retireLoginSessions | retireAuthorizationCodes => cases keeps
    | _ => simp [Stmt.writes] at writes
  · have same : after.authorizationCodes = db.authorizationCodes := exec_same writes executed
    rw [same]
    exact .refl CodeForgets.refl _

theorem exec_families_kept (keeps : statement.keepsRows)
    (executed : exec statement db = .ok (answer, after)) :
    Grows RefreshTokenFamily.id (FamilyForgets id id) db.refreshTokenFamilies
      after.refreshTokenFamilies := by
  by_cases writes : .refreshTokenFamilies ∈ statement.writes
  · cases statement with
    | refreshTokenFamilies s =>
      rw [exec] at executed
      obtain ⟨rows, ran, rfl⟩ := store_ok.mp executed
      exact s.exec_grows
        { refreshTokenFamilies_respect db with
          refl := FamilyForgets.refl
          moves := by rintro ⟨revokedAt, reason⟩ row _; rfl } ran
    | retireLoginSessions | retireAuthorizationCodes | retireRefreshTokenFamilies => cases keeps
    | _ => simp [Stmt.writes] at writes
  · have same : after.refreshTokenFamilies = db.refreshTokenFamilies := exec_same writes executed
    rw [same]
    exact .refl FamilyForgets.refl _

theorem exec_keepsSources (sound : db.Sound) (keeps : statement.keepsRows)
    (executed : exec statement db = .ok (answer, after)) (token : AccessToken) :
    token.KeepsSources id id db after := by
  have soundAfter := exec_sound sound executed
  refine ⟨fun id code _ found => ?_, fun id family _ found => ?_, fun id generation _ found => ?_⟩
  · exact (exec_codes_kept keeps executed).find? sound.codes.distinct soundAfter.codes.distinct found
  · exact (exec_families_kept keeps executed).find? sound.families.distinct soundAfter.families.distinct
      found
  · obtain ⟨kept, isKept, continued⟩ := (exec_grew keeps executed).generations.find?
      sound.generations.distinct soundAfter.generations.distinct found
    exact ⟨kept, isKept, by rw [continued.same]⟩

theorem exec_authorized_kept (sound : db.Sound) (keeps : statement.keepsRows)
    (executed : exec statement db = .ok (answer, after)) (authorized : db.Authorized) :
    after.Authorized := by
  by_cases writes : .accessTokens ∈ statement.writes
  · cases statement with
    | accessTokens s =>
      rw [exec] at executed
      obtain ⟨rows, ran, rfl⟩ := store_ok.mp executed
      refine TableStmt.exec_forall_kept ?_ ?_ s ran authorized
      · intro row allowed
        have isAuthorized : row.Authorized db := authorized_of_insert allowed
        exact isAuthorized
      · rintro ⟨revokedAt, reason⟩ row kept
        exact kept
    | retireLoginSessions | retireAuthorizationCodes | retireAccessTokens => cases keeps
    | _ => simp [Stmt.writes] at writes
  · have same : after.accessTokens = db.accessTokens := exec_same writes executed
    intro token member
    exact (authorized token (same ▸ member)).forgets (fun _ _ found => found) (.refl token)
      (exec_keepsSources sound keeps executed token)

end Kept

/-! ## Deletes keep the agreement -/

/-- `ON DELETE SET NULL`. -/
def forgetting {ρ : Type} (key : ρ → Uuid) (doomed : List ρ) (reference : Option Uuid) : Option Uuid :=
  if refersTo key doomed reference then none else reference

theorem forgetting_some {ρ : Type} {key : ρ → Uuid} {doomed : List ρ} {reference : Option Uuid} {id : Uuid}
    (stays : forgetting key doomed reference = some id) :
    reference = some id ∧ ∀ row ∈ doomed, key row ≠ id := by
  rw [forgetting] at stays
  split at stays
  · cases stays
  · rename_i free
    refine ⟨stays, fun row member isKey => free ?_⟩
    rw [stays, refersTo, Option.any_some, List.any_eq_true]
    exact ⟨row, member, beq_iff_eq.mpr isKey⟩

section Sessions

variable {doomed : List LoginSession}

/-- The state in which a delete of sessions comes to the access tokens. -/
def Db.sessionsDetached (db : Db) (doomed : List LoginSession) : Db :=
  { db with
    loginSessions := survivors (·.id) doomed db.loginSessions
    authorizationCodes := updateRows (refersTo LoginSession.id doomed ·.originSessionID)
      (fun r => { r with originSessionID := none }) db.authorizationCodes
    refreshTokenFamilies := updateRows (refersTo LoginSession.id doomed ·.originSessionID)
      (fun r => { r with originSessionID := none }) db.refreshTokenFamilies }

/-- Codes and families forget the sessions before the access tokens do. -/
theorem sessionsDetached_keepsSources (db : Db) (doomed : List LoginSession) (token : AccessToken) :
    token.KeepsSources (forgetting LoginSession.id doomed) id db (db.sessionsDetached doomed) where
  code codeID code _ found := by
    have lookup : (db.sessionsDetached doomed).code? codeID = (db.code? codeID).map fun row =>
        if refersTo LoginSession.id doomed row.originSessionID then { row with originSessionID := none }
        else row := find?_updateRows (by intro _; rfl)
    rw [found] at lookup
    refine ⟨_, lookup, ?_⟩
    simp only [CodeForgets, forgetting]
    split <;> rfl
  family familyID family _ found := by
    have lookup : (db.sessionsDetached doomed).family? familyID = (db.family? familyID).map fun row =>
        if refersTo LoginSession.id doomed row.originSessionID then { row with originSessionID := none }
        else row := find?_updateRows (by intro _; rfl)
    rw [found] at lookup
    refine ⟨_, lookup, ?_⟩
    simp only [FamilyForgets, forgetting]
    split <;> rfl
  generation _ generation _ found := ⟨generation, found, rfl⟩

theorem sessionsDetached_authorized {token : AccessToken} (authorized : token.Authorized db)
    (doomed : List LoginSession) :
    (if refersTo LoginSession.id doomed token.originSessionID then { token with originSessionID := none }
      else token).Authorized (db.sessionsDetached doomed) := by
  refine authorized.forgets (fun _ _ found => found) ?_ (sessionsDetached_keepsSources db doomed token)
  simp only [AccessForgets, forgetting]
  split <;> rfl

theorem deleteLoginSessions_authorized (authorized : db.Authorized)
    (deleted : deleteLoginSessions db doomed = .ok after) : after.Authorized := by
  rw [deleteLoginSessions_ok deleted]
  intro token member
  obtain ⟨old, inBefore, rfl⟩ := mem_updateRows.mp member
  exact sessionsDetached_authorized (authorized old inBefore) doomed

end Sessions

section Codes

variable {doomed : List AuthorizationCode}

/-- The state in which a delete of codes comes to the access tokens. -/
def Db.codesDetached (db : Db) (doomed : List AuthorizationCode) : Db :=
  { db with
    authorizationCodes := survivors (·.id) doomed db.authorizationCodes
    refreshTokenFamilies := updateRows (refersTo AuthorizationCode.id doomed ·.originAuthorizationCodeID)
      (fun r => { r with originAuthorizationCodeID := none }) db.refreshTokenFamilies }

theorem codesDetached_keepsSources (db : Db) (doomed : List AuthorizationCode) (token : AccessToken) :
    token.KeepsSources id (forgetting AuthorizationCode.id doomed) db (db.codesDetached doomed) where
  code _ code stays found := ⟨code, (find?_untaken (forgetting_some stays).2).trans found, rfl⟩
  family familyID family _ found := by
    have lookup : (db.codesDetached doomed).family? familyID = (db.family? familyID).map fun row =>
        if refersTo AuthorizationCode.id doomed row.originAuthorizationCodeID then
          { row with originAuthorizationCodeID := none }
        else row := find?_updateRows (by intro _; rfl)
    rw [found] at lookup
    refine ⟨_, lookup, ?_⟩
    simp only [FamilyForgets, forgetting]
    split <;> rfl
  generation _ generation _ found := ⟨generation, found, rfl⟩

theorem codesDetached_authorized {token : AccessToken} (authorized : token.Authorized db) :
    (if refersTo AuthorizationCode.id doomed token.authorizationCodeID then
      { token with authorizationCodeID := none }
      else token).Authorized (db.codesDetached doomed) := by
  refine authorized.forgets (fun _ _ stays => (forgetting_some stays).1) ?_
    (codesDetached_keepsSources db doomed token)
  simp only [AccessForgets, forgetting]
  split <;> rfl

theorem deleteAuthorizationCodes_authorized (authorized : db.Authorized)
    (deleted : deleteAuthorizationCodes db doomed = .ok after) : after.Authorized := by
  rw [deleteAuthorizationCodes] at deleted
  rw [unlinkAccessTokens_ok deleted]
  intro token member
  obtain ⟨old, inBefore, rfl⟩ := mem_updateRows.mp member
  exact codesDetached_authorized (authorized old inBefore)

end Codes

/-- A restricted delete that was carried out took no row that is still referred to. -/
theorem free_of_restricted {ρ τ : Type} {key : ρ → Uuid} {doomed : List ρ} {reference : τ → Option Uuid}
    {rows : List τ} {name : String}
    (restricted : foreignKeyViolation name (!(rows.any fun row => refersTo key doomed (reference row))) =
      none)
    {row : τ}
    (member : row ∈ rows) {id : Uuid} (named : reference row = some id) :
    ∀ gone ∈ doomed, key gone ≠ id := by
  intro gone inDoomed isKey
  rw [foreignKeyViolation_eq_none, Bool.not_eq_true', List.any_eq_false] at restricted
  refine restricted row member ?_
  rw [named, refersTo, Option.any_some, List.any_eq_true]
  exact ⟨gone, inDoomed, beq_iff_eq.mpr isKey⟩

theorem deleteRefreshTokens_authorized {doomed : List RefreshToken} (authorized : db.Authorized)
    (deleted : deleteRefreshTokens db doomed = .ok after) : after.Authorized := by
  rw [deleteRefreshTokens] at deleted
  obtain ⟨restricted, rfl⟩ := restrict_ok.mp deleted
  have unsourced := restricted _ List.mem_cons_self
  intro token member
  refine (authorized token member).forgets (fun _ _ found => found) (.refl token) ⟨?_, ?_, ?_⟩
  · exact fun _ code _ found => ⟨code, found, .refl code⟩
  · exact fun _ family _ found => ⟨family, found, .refl family⟩
  · intro id generation named found
    exact ⟨generation, (find?_untaken (free_of_restricted unsourced member named)).trans found, rfl⟩

theorem deleteRefreshTokenFamilies_authorized {doomed : List RefreshTokenFamily}
    (authorized : db.Authorized) (deleted : deleteRefreshTokenFamilies db doomed = .ok after) :
    after.Authorized := by
  rw [deleteRefreshTokenFamilies] at deleted
  obtain ⟨restricted, rfl⟩ := restrict_ok.mp deleted
  have unnamed := restricted _ (List.mem_cons_of_mem _ List.mem_cons_self)
  intro token member
  refine (authorized token member).forgets (fun _ _ found => found) (.refl token) ⟨?_, ?_, ?_⟩
  · exact fun _ code _ found => ⟨code, found, .refl code⟩
  · intro id family named found
    exact ⟨family, (find?_untaken (free_of_restricted unnamed member named)).trans found, .refl family⟩
  · exact fun _ generation _ found => ⟨generation, found, rfl⟩

theorem exec_authorized {β : Type} {statement : Stmt β} {answer : β} (sound : db.Sound)
    (executed : exec statement db = .ok (answer, after)) (authorized : db.Authorized) :
    after.Authorized := by
  by_cases keeps : statement.keepsRows
  · exact exec_authorized_kept sound keeps executed authorized
  cases statement with
  | retirePreAuthSessions cutoff limit locked | retireAccessTokens cutoff limit locked =>
    rw [exec] at executed
    cases (counted_ok.mp executed).1
    exact fun token member => authorized token (by first | exact member | exact (List.mem_filter.mp member).1)
  | retireLoginSessions cutoff limit locked =>
    rw [exec] at executed
    have deleted := (counted_ok.mp executed).1
    exact deleteLoginSessions_authorized authorized deleted
  | retireAuthorizationCodes cutoff limit locked =>
    rw [exec] at executed
    have deleted := (counted_ok.mp executed).1
    exact deleteAuthorizationCodes_authorized authorized deleted
  | retireRefreshTokens cutoff limit locked =>
    rw [exec] at executed
    have deleted := (counted_ok.mp executed).1
    exact deleteRefreshTokens_authorized authorized deleted
  | retireRefreshTokenFamilies cutoff limit locked =>
    rw [exec] at executed
    have deleted := (counted_ok.mp executed).1
    exact deleteRefreshTokenFamilies_authorized authorized deleted
  | _ => exact absurd rfl keeps

/-- In every reachable state the access tokens agree with their codes, generations and families. -/
theorem Run.authorized (run : Run sha zone entries db) : db.Authorized :=
  (run.invariant (fun db => db.Sound ∧ db.Authorized)
    ⟨Db.sound_empty zone, fun _ member => nomatch member⟩
    fun _ _ _ _ _ executed held =>
      ⟨exec_sound held.1 executed, exec_authorized held.1 executed held.2⟩).2

/-! ## What the triggers refuse -/

/-- A token of a code exchange whose code is gone. -/
def AccessToken.Orphaned (token : AccessToken) : Prop :=
  token.issuanceSource = .authorizationCode ∧ token.authorizationCodeID = none

instance (token : AccessToken) : Decidable token.Orphaned :=
  inferInstanceAs (Decidable (_ ∧ _))

theorem unlinkAccessTokens_succeeds (db : Db) (refers : AccessToken → Bool)
    (unlink : AccessToken → AccessToken) :
    (∃ after, unlinkAccessTokens db refers unlink = .ok after) ↔
      ∀ token ∈ db.accessTokens, refers token →
        AccessToken.unlinkViolation db token (unlink token) = none := by
  rw [unlinkAccessTokens]
  split
  · rename_i failure found
    obtain ⟨token, member, violated⟩ := List.exists_of_findSome?_eq_some found
    obtain ⟨stored, isReferring⟩ := List.mem_filter.mp member
    constructor
    · rintro ⟨_, failed⟩
      cases failed
    · intro fine
      rw [fine token stored isReferring] at violated
      cases violated
  · rename_i none
    rw [List.findSome?_eq_none_iff] at none
    exact ⟨fun _ token stored isReferring => none token (List.mem_filter.mpr ⟨stored, isReferring⟩),
      fun _ => ⟨_, rfl⟩⟩

/-- A row that agrees with its sources passes unless it is orphaned. -/
theorem authorityViolation_of_authorized {token : AccessToken} (old : Option AccessToken)
    (authorized : token.Authorized db) (attached : ¬ token.Orphaned) :
    AccessToken.authorityViolation db old token = none := by
  rw [AccessToken.authorityViolation]
  rw [AccessToken.Authorized] at authorized
  cases source : token.issuanceSource with
  | refreshToken => simpa [source] using authorized
  | authorizationCode =>
    cases named : token.authorizationCodeID with
    | none => exact absurd ⟨source, named⟩ attached
    | some id =>
      simp only [source] at authorized
      obtain ⟨ofCode, ofFamily⟩ := authorized id named
      simp [firstViolation_eq_none, ofCode, ofFamily]

/-- A delete of sessions may change a token that is not orphaned, and no other. -/
theorem session_unlinkViolation {doomed : List LoginSession} {token : AccessToken}
    (authorized : token.Authorized db)
    (isReferring : refersTo LoginSession.id doomed token.originSessionID) :
    AccessToken.unlinkViolation (db.sessionsDetached doomed) token { token with originSessionID := none } =
      none ↔ ¬ token.Orphaned := by
  have authorizedThen := sessionsDetached_authorized authorized doomed
  rw [if_pos isReferring] at authorizedThen
  simp only [AccessToken.unlinkViolation, firstViolation_eq_none, List.mem_cons, List.not_mem_nil, or_false,
    forall_eq_or_imp, forall_eq]
  constructor
  · rintro ⟨allowed, -⟩ ⟨source, detached⟩
    simp [AccessToken.authorityViolation, source, detached, AccessToken.detachedFrom] at allowed
  · intro attached
    refine ⟨authorityViolation_of_authorized _ authorizedThen attached, ?_⟩
    simp [AccessToken.unlinkAllowed]

/-- A delete of codes may change every token that has one of them. -/
theorem code_unlinkViolation {doomed : List AuthorizationCode} {token : AccessToken}
    (authorized : token.Authorized db)
    (isReferring : refersTo AuthorizationCode.id doomed token.authorizationCodeID) :
    AccessToken.unlinkViolation (db.codesDetached doomed) token { token with authorizationCodeID := none } =
      none := by
  obtain ⟨id, named, isDoomed⟩ : ∃ id, token.authorizationCodeID = some id ∧ doomed.any (·.id == id) := by
    simpa [refersTo, Option.any_eq_true] using isReferring
  have source := authorized.source named
  have gone : (db.codesDetached doomed).code? id = none := by
    rw [Db.code?, List.find?_eq_none]
    intro code left isCode
    rw [beq_iff_eq] at isCode
    obtain ⟨-, free⟩ := List.mem_filter.mp left
    simp only [isCode, isDoomed] at free
    cases free
  simp [AccessToken.unlinkViolation, firstViolation_eq_none, AccessToken.authorityViolation, source,
    AccessToken.detachedFrom, AccessToken.unlinkAllowed, named, gone]

/-! ## Deletes that succeed -/

/-- A row keeps the session from being deleted. -/
def Db.Pins (db : Db) (id : Uuid) : Prop :=
  (∃ logout ∈ db.logoutTransactions, logout.sessionID = some id) ∨
    ∃ token ∈ db.accessTokens, token.originSessionID = some id ∧ token.Orphaned

instance (db : Db) (id : Uuid) : Decidable (db.Pins id) := inferInstanceAs (Decidable (_ ∨ _))

theorem refersTo_iff {ρ : Type} {key : ρ → Uuid} {doomed : List ρ} {reference : Option Uuid} :
    refersTo key doomed reference ↔ ∃ row ∈ doomed, reference = some (key row) := by
  cases reference with
  | none => simp [refersTo]
  | some id =>
    simp only [refersTo, Option.any_some, List.any_eq_true, beq_iff_eq, Option.some.injEq]
    constructor
    · rintro ⟨row, member, isKey⟩
      exact ⟨row, member, isKey.symm⟩
    · rintro ⟨row, member, isKey⟩
      exact ⟨row, member, isKey.symm⟩

/-- The access tokens let the sessions go when none that names one of them is orphaned. -/
theorem sessions_unlink_iff (authorized : db.Authorized) (doomed : List LoginSession) :
    (∃ after, unlinkAccessTokens (db.sessionsDetached doomed)
      (fun token => refersTo LoginSession.id doomed token.originSessionID)
      (fun token => { token with originSessionID := none }) = .ok after) ↔
      ∀ token ∈ db.accessTokens, refersTo LoginSession.id doomed token.originSessionID →
        ¬ token.Orphaned := by
  rw [unlinkAccessTokens_succeeds]
  refine forall₂_congr fun token stored => forall_congr' fun isReferring => ?_
  exact session_unlinkViolation (authorized token stored) isReferring

theorem deleteLoginSessions_succeeds {doomed : List LoginSession} (authorized : db.Authorized) :
    (∃ after, deleteLoginSessions db doomed = .ok after) ↔ ∀ session ∈ doomed, ¬ db.Pins session.id := by
  have unlinks := sessions_unlink_iff authorized doomed
  have kept : foreignKeyViolation "logout_transactions_session_id_fkey"
      (!(db.logoutTransactions.any fun logout => refersTo LoginSession.id doomed logout.sessionID)) = none ↔
      ∀ logout ∈ db.logoutTransactions, ¬ refersTo LoginSession.id doomed logout.sessionID := by
    simp
  constructor
  · rintro ⟨after, deleted⟩ session isDoomed pinned
    rw [deleteLoginSessions] at deleted
    obtain ⟨unlinked, ran, finished⟩ := bind_ok.mp deleted
    rcases pinned with ⟨logout, stored, named⟩ | ⟨token, stored, named, orphaned⟩
    · split at finished
      · cases finished
      · rename_i unreferenced
        exact kept.mp unreferenced logout stored (refersTo_iff.mpr ⟨session, isDoomed, named⟩)
    · exact unlinks.mp ⟨unlinked, ran⟩ token stored (refersTo_iff.mpr ⟨session, isDoomed, named⟩) orphaned
  · intro free
    obtain ⟨unlinked, ran⟩ := unlinks.mpr fun token stored isReferring orphaned => by
      obtain ⟨session, isDoomed, named⟩ := refersTo_iff.mp isReferring
      exact free session isDoomed (Or.inr ⟨token, stored, named, orphaned⟩)
    have unreferenced := kept.mpr fun logout stored isReferring => by
      obtain ⟨session, isDoomed, named⟩ := refersTo_iff.mp isReferring
      exact free session isDoomed (Or.inl ⟨logout, stored, named⟩)
    refine ⟨unlinked, ?_⟩
    rw [deleteLoginSessions]
    refine bind_ok.mpr ⟨unlinked, ran, ?_⟩
    rw [unreferenced]

theorem deleteAuthorizationCodes_succeeds (authorized : db.Authorized) (doomed : List AuthorizationCode) :
    ∃ after, deleteAuthorizationCodes db doomed = .ok after :=
  (unlinkAccessTokens_succeeds _ _ _).mpr fun token stored isReferring =>
    code_unlinkViolation (authorized token stored) isReferring

/-- A restricted delete whose rows nothing names. -/
theorem unreferenced_of_free {ρ τ : Type} {key : ρ → Uuid} {doomed : List ρ} {reference : τ → Option Uuid}
    {rows : List τ} {name : String}
    (free : ∀ row ∈ doomed, ∀ other ∈ rows, reference other ≠ some (key row)) :
    foreignKeyViolation name (!(rows.any fun row => refersTo key doomed (reference row))) = none := by
  rw [foreignKeyViolation_eq_none, Bool.not_eq_true', List.any_eq_false]
  intro other stored isReferring
  obtain ⟨row, isDoomed, named⟩ := refersTo_iff.mp isReferring
  exact free row isDoomed other stored named

/-- A transaction is deleted once no form and no code names it. -/
theorem retireAuthTransactions_succeeds (db : Db) (cutoff : Time) (limit : Nat) (locked : Uuid → Bool) :
    ∃ after, deleteAuthTransactions db (retiredAuthTransactions db cutoff limit locked) = .ok after := by
  refine ⟨_, restrict_ok.mpr ⟨?_, rfl⟩⟩
  have unnamed {row : AuthTransaction} (taken : row ∈ retiredAuthTransactions db cutoff limit locked) :
      db.transactionDue cutoff row := (mem_batch taken).2
  simp only [Db.transactionDue, Bool.and_eq_true, Bool.not_eq_true', List.any_eq_false, beq_iff_eq] at unnamed
  simp only [List.mem_cons, List.not_mem_nil, or_false, forall_eq_or_imp, forall_eq]
  refine ⟨unreferenced_of_free fun row taken other stored named => ?_,
    unreferenced_of_free fun row taken other stored named => ?_⟩
  · exact (unnamed taken).1.2 other stored (Option.some.inj named)
  · exact (unnamed taken).2 other stored (Option.some.inj named)

/-- A generation is deleted once no access token comes from it. -/
theorem retireRefreshTokens_succeeds (db : Db) (cutoff : Time) (limit : Nat) (locked : Uuid → Bool) :
    ∃ after, deleteRefreshTokens db (retiredRefreshTokens db cutoff limit locked) = .ok after := by
  refine ⟨_, restrict_ok.mpr ⟨?_, rfl⟩⟩
  have unnamed {row : RefreshToken} (taken : row ∈ retiredRefreshTokens db cutoff limit locked) :
      db.generationDue cutoff row := (mem_batch taken).2
  simp only [Db.generationDue, Bool.and_eq_true, Bool.not_eq_true', List.any_eq_false, beq_iff_eq] at unnamed
  simp only [List.mem_cons, List.not_mem_nil, or_false, forall_eq]
  exact unreferenced_of_free fun row taken other stored named => (unnamed taken).2 other stored named

/-- A family is deleted once it has no generation and no access token. -/
theorem retireRefreshTokenFamilies_succeeds (db : Db) (cutoff : Time) (limit : Nat)
    (locked : Uuid → Bool) :
    ∃ after, deleteRefreshTokenFamilies db (retiredRefreshTokenFamilies db cutoff limit locked) =
      .ok after := by
  refine ⟨_, restrict_ok.mpr ⟨?_, rfl⟩⟩
  have unnamed {row : RefreshTokenFamily}
      (taken : row ∈ retiredRefreshTokenFamilies db cutoff limit locked) :
      db.familyDue cutoff row := (mem_batch taken).2
  simp only [Db.familyDue, Bool.and_eq_true, Bool.not_eq_true', List.any_eq_false, beq_iff_eq] at unnamed
  simp only [List.mem_cons, List.not_mem_nil, or_false, forall_eq_or_imp, forall_eq]
  refine ⟨unreferenced_of_free fun row taken other stored named => ?_,
    unreferenced_of_free fun row taken other stored named => ?_⟩
  · exact (unnamed taken).1.2 other stored (Option.some.inj named)
  · exact (unnamed taken).2 other stored named

/-! ## Expiry -/

/-- Stored transactions pass their CHECK constraints. -/
def Db.TransactionsChecked (db : Db) : Prop :=
  ∀ row ∈ db.authTransactions, checkViolation row.checks = none

theorem exec_transactionsChecked {β : Type} {statement : Stmt β} {answer : β}
    (executed : exec statement db = .ok (answer, after)) (checked : db.TransactionsChecked) :
    after.TransactionsChecked := by
  by_cases writes : .authTransactions ∈ statement.writes
  · cases statement with
    | authTransactions s =>
      rw [exec] at executed
      obtain ⟨rows, ran, rfl⟩ := store_ok.mp executed
      exact s.exec_forall (fun row allowed => OneIssuer.checked allowed (by simp))
        (fun _ _ allowed => allowed) ran checked
    | expireAuthTransactions now limit locked =>
      rw [exec] at executed
      obtain ⟨⟨_, _⟩, updated, same⟩ := map_ok.mp executed
      obtain ⟨rows, ran, rfl⟩ := store_ok.mp updated
      cases same
      exact TableStmt.exec_forall (fun row allowed => OneIssuer.checked allowed (by simp))
        (fun _ _ allowed => allowed) _ ran checked
    | retireAuthTransactions cutoff limit locked =>
      rw [exec] at executed
      obtain ⟨_, deleted, same⟩ := map_ok.mp executed
      cases same
      rw [deleteAuthTransactions] at deleted
      rw [(restrict_ok.mp deleted).2]
      exact fun row member => checked row (List.mem_filter.mp member).1
    | _ => simp [Stmt.writes] at writes
  · have same : after.authTransactions = db.authTransactions := exec_same writes executed
    exact fun row member => checked row (same ▸ member)

theorem Run.transactionsChecked (run : Run sha zone entries db) : db.TransactionsChecked :=
  run.invariant Db.TransactionsChecked (fun _ member => nomatch member)
    fun _ _ _ _ _ => exec_transactionsChecked

/-- Ending a transaction that ran out keeps its CHECK constraints. -/
theorem checks_expired {row : AuthTransaction} {now : Time} (checked : checkViolation row.checks = none)
    (elapsed : row.elapsed now) :
    checkViolation (AuthTransactionChange.apply (.expire now) row).checks = none := by
  simp only [AuthTransaction.elapsed, Bool.and_eq_true, decide_eq_true_eq] at elapsed
  simp only [checkViolation_eq_none, AuthTransaction.checks, AuthTransactionChange.apply, List.mem_cons,
    List.not_mem_nil, or_false, forall_eq_or_imp, forall_eq] at checked ⊢
  obtain ⟨context, bounds, expiry, rest⟩ := checked
  refine ⟨context, bounds, ?_, rest⟩
  have ordered : row.createdAt < row.expiresAt := of_decide_eq_true (Bool.and_eq_true_iff.mp expiry).1
  exact Bool.and_eq_true_iff.mpr
    ⟨decide_eq_true ordered, decide_eq_true ((le_of_lt ordered).trans elapsed.2)⟩

/-- The event of an expiry. -/
def expiryEvent (now : Time) (target id : Uuid) : Audit.Event :=
  { id, type := .authorizationTransactionExpired, result := .success, actorUserID := none
    targetType := some .authTransaction, targetID := some target, requestID := ""
    changedFields := [], occurredAt := now }

/-- It can be recorded about every transaction with an identifier, at every time but Go's zero time. -/
theorem insertExpiry_succeeds (db : Db) (now : Time) (target : Uuid) :
    (∃ after, (insertNewAudit (expiryEvent now target)).run exec db = .ok ((), after)) ↔
      now ≠ 0 ∧ target ≠ Uuid.nil := by
  have valid : (expiryEvent now target (freshEventID db)).validate ↔ now ≠ 0 ∧ target ≠ Uuid.nil := by
    simp [Audit.Event.validate, expiryEvent, freshEventID, Uuid.nil, Time.isZero, Audit.validRequestID]
  have allowed : (expiryEvent now target (freshEventID db)).row.insertViolation db = none := by
    simp only [AuditEvent.insertViolation, firstViolation_eq_none, List.mem_cons, List.not_mem_nil, or_false,
      forall_eq_or_imp, forall_eq, AuditEvent.checks, checkViolation_eq_none]
    refine ⟨?_, ?_, ?_, ?_⟩
    · simp [expiryEvent, Audit.Event.row, pointerString]
    · rw [uniqueViolation_eq_none, List.any_eq_false]
      intro old member
      simpa [expiryEvent, Audit.Event.row] using ne_freshEventID member
    · rfl
    · rfl
  constructor
  · rintro ⟨_, ran⟩
    exact valid.mp (insertNewAudit_ok.mp ran).1
  · intro fine
    exact ⟨_, insertNewAudit_ok.mpr ⟨valid.mpr fine, allowed, rfl⟩⟩

theorem insertExpiries_succeed (now : Time) : ∀ (targets : List Uuid) (db : Db),
    (∃ after, (Program.each (fun target => insertNewAudit (expiryEvent now target)) targets).run exec db =
      .ok ((), after)) ↔ ∀ target ∈ targets, now ≠ 0 ∧ target ≠ Uuid.nil
  | [], db => ⟨fun _ => nofun, fun _ => ⟨db, rfl⟩⟩
  | target :: rest, db => by
    rw [List.forall_mem_cons, ← insertExpiry_succeeds db now target]
    constructor
    · rintro ⟨after, ran⟩
      obtain ⟨between, first, others⟩ := (Program.run_each_ok exec).mp ran
      exact ⟨⟨between, first⟩, (insertExpiries_succeed now rest between).mp ⟨after, others⟩⟩
    · rintro ⟨⟨between, first⟩, fine⟩
      obtain ⟨after, others⟩ := (insertExpiries_succeed now rest between).mpr fine
      exact ⟨after, (Program.run_each_ok exec).mpr ⟨between, first, others⟩⟩

/-- The transactions that an expiry ends are the ones of its batch. -/
theorem forall_expired {now : Time} {limit : Nat} {locked : Uuid → Bool} {holds : Uuid → Prop} :
    (∀ id ∈ (db.authTransactions.filter fun row => AuthTransactionChange.guard (.expire now) row &&
        (expiredAuthTransactions db limit locked now).any (·.id == row.id)).map
          (fun row => (AuthTransactionChange.apply (.expire now) row).id), holds id) ↔
      ∀ row ∈ expiredAuthTransactions db limit locked now, holds row.id := by
  constructor
  · intro all row taken
    obtain ⟨stored, elapsed⟩ := mem_batch taken
    refine all row.id (List.mem_map.mpr ⟨row, List.mem_filter.mpr ⟨stored, ?_⟩, rfl⟩)
    rw [Bool.and_eq_true, List.any_eq_true]
    exact ⟨elapsed, row, taken, beq_self_eq_true _⟩
  · intro all id member
    obtain ⟨row, ended, rfl⟩ := List.mem_map.mp member
    obtain ⟨-, taken⟩ := Bool.and_eq_true_iff.mp (List.mem_filter.mp ended).2
    obtain ⟨other, inBatch, sameID⟩ := List.any_eq_true.mp taken
    have holdsOther := all other inBatch
    rw [beq_iff_eq.mp sameID] at holdsOther
    exact holdsOther

/-- The statement of an expiry succeeds and answers with the transactions of its batch. -/
theorem exec_expire (checked : db.TransactionsChecked) (now : Time) (limit : Nat) (locked : Uuid → Bool) :
    ∃ ids between, exec (.expireAuthTransactions now limit locked) db = .ok (ids, between) ∧
      ∀ holds : Uuid → Prop, (∀ id ∈ ids, holds id) ↔
        ∀ row ∈ expiredAuthTransactions db limit locked now, holds row.id := by
  have allowed : ∀ row ∈ db.authTransactions,
      authTransactionsTable.guard (.expire now) row &&
        (expiredAuthTransactions db limit locked now).any (·.id == row.id) →
      authTransactionsTable.updateViolation db (.expire now)
        (authTransactionsTable.apply (.expire now) row) = none :=
    fun row stored chosen => checks_expired (checked row stored) (Bool.and_eq_true_iff.mp chosen).1
  have ran := TableStmt.exec_update_ok.mpr ⟨allowed, rfl, rfl⟩
  refine ⟨_, _, map_ok.mpr ⟨_, store_ok.mpr ⟨_, ran, rfl⟩, rfl⟩, fun holds => ?_⟩
  rw [List.map_map]
  exact forall_expired

theorem expireAuthTransactions_succeeds (checked : db.TransactionsChecked) (now : Time)
    (locked : Uuid → Bool) :
    (∃ value after, (expireAuthTransactions now locked).run exec db = .ok (value, after)) ↔
      ∀ row ∈ expiredAuthTransactions db cleanupBatchSize locked (timestamp now),
        now ≠ 0 ∧ row.id ≠ Uuid.nil := by
  obtain ⟨ids, between, executed, listed⟩ := exec_expire checked (timestamp now) cleanupBatchSize locked
  rw [← listed fun id => now ≠ 0 ∧ id ≠ Uuid.nil, ← insertExpiries_succeed now ids between]
  simp only [expireAuthTransactions, Program.run_bind_ok, Tx.query_ok, Program.run_pure_ok, Prod.mk.injEq]
  constructor
  · rintro ⟨_, after, _, _, again, _, _, reported, rfl, rfl⟩
    rw [executed] at again
    cases again
    exact ⟨after, reported⟩
  · rintro ⟨after, reported⟩
    exact ⟨ids.length, after, ids, between, executed, (), after, reported, rfl, rfl⟩

/-! ## The loop of the application -/

/-- The batches that `startCleanupLoop` repeats at `now`, in its order. `locked` are the rows that other
transactions hold. -/
def cleanupBatches (now : Time) (locked : Uuid → Bool) : List Call :=
  [.cleanupSessions now (now - hours (30 * 24)) now locked,
    .expireAuthTransactions now locked,
    .cleanupAuthTransactions (now - hours 24) now locked,
    .cleanupProtocolArtifacts (now - hours 24) now locked,
    .cleanupRefreshArtifacts (now - hours (30 * 24)) now locked,
    .cleanupLogoutTransactions now (now - hours 24) locked]

/-- What a batch of the loop needs to succeed. -/
def Db.Clears (db : Db) : Call → Prop
  | .cleanupSessions _ retiredCutoff _ locked =>
    ∀ session ∈ retiredLoginSessions db (timestamp retiredCutoff) cleanupBatchSize locked,
      ¬ db.Pins session.id
  | .expireAuthTransactions now locked =>
    ∀ row ∈ expiredAuthTransactions db cleanupBatchSize locked (timestamp now), now ≠ 0 ∧ row.id ≠ Uuid.nil
  | _ => True

theorem calm_quietly {call : Call} {α : Type} {body : Tx α} (isBody : call.body sha = quietly body) :
    (Entry.calm sha call db).outcome = .ok .done ↔ ∃ value after, body.run exec db = .ok (value, after) := by
  simp only [Entry.calm_ok, isBody, quietly_ok, and_true]
  exact exists_comm

/-- Neither the sessions nor what pins them depends on the forms that go first. -/
theorem deleteLoginSessions_withoutForms {doomed : List LoginSession} (authorized : db.Authorized)
    (forms : List PreAuthSession) :
    (∃ after, deleteLoginSessions { db with preAuthSessions := forms } doomed = .ok after) ↔
      ∀ session ∈ doomed, ¬ db.Pins session.id := by
  have stillAuthorized : { db with preAuthSessions := forms }.Authorized := authorized
  exact deleteLoginSessions_succeeds stillAuthorized

theorem cleanupSessions_succeeds (authorized : db.Authorized) (preAuthCutoff retiredCutoff : Time)
    (locked : Uuid → Bool) :
    (∃ value after, (cleanupSessions preAuthCutoff retiredCutoff locked).run exec db = .ok (value, after)) ↔
      ∀ session ∈ retiredLoginSessions db (timestamp retiredCutoff) cleanupBatchSize locked,
        ¬ db.Pins session.id := by
  rw [← deleteLoginSessions_withoutForms authorized (survivors PreAuthSession.id
    (retiredPreAuthSessions db (timestamp preAuthCutoff) cleanupBatchSize locked) db.preAuthSessions)]
  simp only [cleanupSessions, Program.run_bind_ok, Tx.query_ok, Program.run_pure_ok, Prod.mk.injEq]
  constructor
  · rintro ⟨_, after, _, _, forms, _, _, retired, rfl, rfl⟩
    cases forms
    exact ⟨_, (counted_ok.mp retired).1⟩
  · rintro ⟨after, deleted⟩
    exact ⟨_, after, _, _, rfl, _, after, counted_ok.mpr ⟨deleted, rfl⟩, rfl, rfl⟩

theorem cleanupAuthTransactions_succeeds (db : Db) (cutoff : Time) (locked : Uuid → Bool) :
    ∃ value after, (cleanupAuthTransactions cutoff locked).run exec db = .ok (value, after) := by
  obtain ⟨after, deleted⟩ := retireAuthTransactions_succeeds db (timestamp cutoff) cleanupBatchSize locked
  exact ⟨_, after, Tx.query_ok.mpr (counted_ok.mpr ⟨deleted, rfl⟩)⟩

theorem cleanupProtocolArtifacts_succeeds (authorized : db.Authorized) (cutoff : Time)
    (locked : Uuid → Bool) :
    ∃ value after, (cleanupProtocolArtifacts cutoff locked).run exec db = .ok (value, after) := by
  obtain ⟨between, deleted⟩ := deleteAuthorizationCodes_succeeds authorized
    (retiredAuthorizationCodes db (timestamp cutoff) cleanupBatchSize locked)
  simp only [cleanupProtocolArtifacts, Program.run_bind_ok, Tx.query_ok, Program.run_pure_ok,
    Prod.mk.injEq]
  exact ⟨_, _, _, between, counted_ok.mpr ⟨deleted, rfl⟩, _, _, rfl, rfl, rfl⟩

theorem cleanupRefreshArtifacts_succeeds (db : Db) (cutoff : Time) (locked : Uuid → Bool) :
    ∃ value after, (cleanupRefreshArtifacts cutoff locked).run exec db = .ok (value, after) := by
  obtain ⟨between, deleted⟩ := retireRefreshTokens_succeeds db (timestamp cutoff) cleanupBatchSize locked
  obtain ⟨after, dropped⟩ :=
    retireRefreshTokenFamilies_succeeds between (timestamp cutoff) cleanupBatchSize locked
  simp only [cleanupRefreshArtifacts, Program.run_bind_ok, Tx.query_ok, Program.run_pure_ok,
    Prod.mk.injEq]
  exact ⟨_, after, _, between, counted_ok.mpr ⟨deleted, rfl⟩, _, after, counted_ok.mpr ⟨dropped, rfl⟩, rfl, rfl⟩

theorem cleanupLogoutTransactions_succeeds (db : Db) (now terminalCutoff : Time) (locked : Uuid → Bool) :
    ∃ value after, (cleanupLogoutTransactions now terminalCutoff locked).run exec db =
      .ok (value, after) :=
  ⟨_, _, Tx.query_ok.mpr rfl⟩

/-- In every reachable state, at every time, a batch of the loop succeeds exactly when no session it
deletes is pinned and every transaction it ends can be reported. The rows it leaves pass their CHECK
constraints, the ones that lost a reference too. -/
theorem cleanup_batch_succeeds_iff (run : Run sha zone entries db) (now : Time) (locked : Uuid → Bool) :
    (∀ call ∈ cleanupBatches now locked,
      ((Entry.calm sha call db).outcome = .ok .done ↔ db.Clears call) ∧
        (Entry.calm sha call db).after.Sound) ∧
    (now ≠ 0 → (∀ row ∈ db.authTransactions, row.id ≠ Uuid.nil) →
      (∀ session ∈ db.loginSessions, session.retired (timestamp (now - hours (30 * 24))) →
        locked session.id = false → ¬ db.Pins session.id) →
      ∀ call ∈ cleanupBatches now locked, (Entry.calm sha call db).outcome = .ok .done) := by
  have authorized := run.authorized
  have precise : ∀ call ∈ cleanupBatches now locked,
      ((Entry.calm sha call db).outcome = .ok .done ↔ db.Clears call) := by
    simp only [cleanupBatches, List.mem_cons, List.not_mem_nil, or_false, forall_eq_or_imp, forall_eq]
    refine ⟨?_, ?_, ?_, ?_, ?_, ?_⟩
    · exact (calm_quietly rfl).trans (cleanupSessions_succeeds authorized ..)
    · exact (calm_quietly rfl).trans (expireAuthTransactions_succeeds run.transactionsChecked ..)
    · exact (calm_quietly rfl).trans (iff_true_intro (cleanupAuthTransactions_succeeds ..))
    · exact (calm_quietly rfl).trans (iff_true_intro (cleanupProtocolArtifacts_succeeds authorized ..))
    · exact (calm_quietly rfl).trans (iff_true_intro (cleanupRefreshArtifacts_succeeds ..))
    · exact (calm_quietly rfl).trans (iff_true_intro (cleanupLogoutTransactions_succeeds ..))
  refine ⟨fun call listed => ⟨precise call listed, (Entry.calm_ran sha call db).sound run.sound⟩, ?_⟩
  intro notZero notNil unpinned call listed
  refine (precise call listed).mpr ?_
  simp only [cleanupBatches, List.mem_cons, List.not_mem_nil, or_false] at listed
  rcases listed with rfl | rfl | rfl | rfl | rfl | rfl
  · intro session taken
    obtain ⟨stored, isRetired⟩ := mem_batch taken
    have unlocked := not_skipped_of_batch taken
    exact unpinned session stored isRetired unlocked
  · exact fun row taken => ⟨notZero, notNil row (mem_batch taken).1⟩
  all_goals trivial

namespace Sample

/-- A day after the code of a flow ran out, while its access token is still kept. -/
def codeRetired : Entry :=
  .calm Sample.sha (.cleanupProtocolArtifacts (at' 310) (at' 310 + hours 24) fun _ => false) exchanged.after

def logoutStarted : Entry :=
  .calm Sample.sha (.createLogoutTransaction
    { id := 20, lookupHash := digest 20, stage := .preConfirm, verifiedClientID := none
      postLogoutRedirectURI := "", state := "", hintSubject := "", createdAt := at' 1
      expiresAt := at' 300 }) codeIssued.after

def logoutBound : Entry :=
  .calm Sample.sha (.bindLogoutTransaction
    { lookupHash := digest 20, csrfHash := digest 21, userID := 1, sessionID := 5, sessionBindingID := 5
      subject := "subject-0000000000001", now := at' 2, maxActive := 5, maxAttempts := 5 })
    logoutStarted.after

theorem logoutBound_run :
    Run Sample.sha .utc (logoutBound :: logoutStarted :: flow) logoutBound.after := by
  have started : Run Sample.sha .utc (logoutStarted :: flow) logoutStarted.after :=
    flow_run.quiet _ (by simp [Call.reads]) (by simp [Call.kinds])
  exact started.quiet _ (by simp [Call.reads]) (by simp [Call.kinds])

theorem cleanup_stops_evaluated :
    (Fresh (states (exchanged :: flow) exchanged.after) exchanged.after codeRetired.after ∧
      codeRetired.after.logoutTransactions = [] ∧
      ∃ call ∈ cleanupBatches monthLater fun _ => false,
        (Entry.calm Sample.sha call codeRetired.after).outcome ≠ .ok .done) ∧
      logoutBound.after.accessTokens = [] ∧
      ∃ call ∈ cleanupBatches monthLater fun _ => false,
        (Entry.calm Sample.sha call logoutBound.after).outcome ≠ .ok .done := by
  decide +kernel

end Sample

/-- A flow whose session is young: every batch of the loop succeeds. -/
theorem cleanup_batch_succeeds_sample :
    Run Sample.sha .utc (Sample.exchanged :: Sample.flow) Sample.exchanged.after ∧
    ∀ call ∈ cleanupBatches (Sample.at' 50) fun _ => false,
      (Entry.calm Sample.sha call Sample.exchanged.after).outcome = .ok .done := by
  obtain ⟨transactions, sessions⟩ : (∀ row ∈ Sample.exchanged.after.authTransactions, row.id ≠ Uuid.nil) ∧
      ∀ session ∈ Sample.exchanged.after.loginSessions,
        session.retired (timestamp (Sample.at' 50 - hours (30 * 24))) = false := by
    decide +kernel
  refine ⟨Sample.exchanged_run,
    (cleanup_batch_succeeds_iff Sample.exchanged_run (Sample.at' 50) _).2 (by decide) transactions ?_⟩
  intro session stored isRetired
  rw [sessions session stored] at isRetired
  cases isRetired

/-- On the thirty-first day the session of a flow cannot be deleted: after the code went while its access
token stayed, and after the session was bound to a logout. -/
theorem cleanup_stops :
    (∃ entries db, Run Sample.sha .utc entries db ∧ db.logoutTransactions = [] ∧
      ∃ call ∈ cleanupBatches Sample.monthLater fun _ => false,
        (Entry.calm Sample.sha call db).outcome ≠ .ok .done) ∧
    ∃ entries db, Run Sample.sha .utc entries db ∧ db.accessTokens = [] ∧
      ∃ call ∈ cleanupBatches Sample.monthLater fun _ => false,
        (Entry.calm Sample.sha call db).outcome ≠ .ok .done := by
  obtain ⟨⟨fresh, noLogout, orphaned⟩, noToken, bound⟩ := Sample.cleanup_stops_evaluated
  have retired : Run Sample.sha .utc (Sample.codeRetired :: Sample.exchanged :: Sample.flow)
      Sample.codeRetired.after := Sample.exchanged_run.calm _ (by simp [Call.reads]) fresh
  exact ⟨⟨_, _, retired, noLogout, orphaned⟩, ⟨_, _, Sample.logoutBound_run, noToken, bound⟩⟩

end OneIssuer
