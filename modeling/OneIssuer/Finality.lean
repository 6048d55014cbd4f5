import OneIssuer.Calls
import OneIssuer.Token.Acceptance

/-!
# Finality

A token that was revoked, or whose family was revoked, is never accepted again: its row can be
followed to every later state of a run, and no statement clears the columns that make it dead. So a
cascade that found every row alive at its moment is final, whatever happens to the user, the client
or the grant afterwards. This module draws that conclusion for the disabling of users and clients.

**What it does not establish.** What becomes of the browser sessions of a disabled user, and of the
claims of an access token that a resource server reads without asking.
-/

set_option autoImplicit false

namespace OneIssuer

open Relational Token Store Queries

/-! ## Rejected tokens -/

/-- No endpoint accepts an access token with this digest. -/
def Token.Service.RejectsAccess (service : Service) (sha : Sha256) (db : Db) (now : Time)
    (digest : Bytes) : Prop :=
  ∀ compact, service.accessDigest sha compact = some digest →
    (∀ info, service.userInfoForAccessToken sha db compact now ≠ .ok info) ∧
      ∀ client hint response, service.introspect sha db ⟨client, compact, hint, now⟩ = .ok response →
        response.active = false

/-- No endpoint accepts a refresh token with this digest: introspection reports it as inactive, and a
refresh that runs on `db`, having looked its rows up in a state of the history, returns no tokens. -/
structure Token.Service.RejectsRefresh (service : Service) (sha : Sha256) (history : List Db)
    (db : Db) (now : Time) (digest : Bytes) : Prop where
  introspect : ∀ token, digestPresentedRefreshToken sha token = some digest →
    ∀ client hint response, service.introspect sha db ⟨client, token, hint, now⟩ = .ok response →
      response.active = false
  refresh : ∀ entry : Entry, entry.Ran sha → entry.before = db →
    ∀ input mint seenGeneration seenFamily,
      entry.call = .exchangeRefreshToken input mint seenGeneration seenFamily →
      seenGeneration ∈ history → seenFamily ∈ history → input.tokenHash = digest →
      ∃ error, entry.outcome = .error error

/-- No generation of the family is accepted. -/
def Token.Service.RejectsFamily (service : Service) (sha : Sha256) (history : List Db) (db : Db)
    (now : Time) (familyID : Uuid) : Prop :=
  ∀ seen ∈ history, ∀ generation ∈ seen.refreshTokens, generation.familyID = familyID →
    service.RejectsRefresh sha history db now generation.tokenHash

variable {sha : Sha256} {service : Service} {db : Db} {now : Time}

/-- A digest under which nothing is honoured is rejected. -/
theorem rejectsAccess_of_not_honoured {digest : Bytes}
    (dead : ∀ token : AccessToken, token.jtiHash = digest → ¬ db.HonoursAccess now token) :
    service.RejectsAccess sha db now digest := by
  intro compact named
  constructor
  · intro info accepted
    obtain ⟨token, isDigest, honoured⟩ := userInfo_honours accepted
    exact dead token (Option.some.inj (isDigest.symm.trans named)) honoured
  · intro client hint response answered
    by_contra notInactive
    have active : response.active := by simpa using notInactive
    rcases introspect_cases answered active with access | refresh
    · obtain ⟨claims, authority, verified, isAuthority, accepted, -⟩ :=
        introspectAccess_active access active
      have read := accessAuthority_ok isAuthority
      have isDigest : service.accessDigest sha compact = _ := accessDigest_of_verified verified
      rw [named, ← read.digest] at isDigest
      exact dead _ (Option.some.inj isDigest).symm (matches_honours read accepted)
    · obtain ⟨-, generation, presented, -⟩ := introspectRefresh_active refresh active
      obtain ⟨claims, signed, -⟩ := Option.map_eq_some_iff.mp named
      rw [compact_not_refresh signed] at presented
      cases presented

/-- Introspection reports no refresh token as active that is not honoured. -/
theorem introspect_inactive_of_not_honoured {digest : Bytes} {token : String}
    (presented : digestPresentedRefreshToken sha token = some digest)
    (dead : ∀ generation : RefreshToken, generation.tokenHash = digest →
      ¬ db.HonoursGeneration now generation)
    {client : Client} {hint : String} {response : IntrospectionResponse}
    (answered : service.introspect sha db ⟨client, token, hint, now⟩ = .ok response) :
    response.active = false := by
  by_contra notInactive
  have active : response.active := by simpa using notInactive
  rcases introspect_cases answered active with access | refresh
  · obtain ⟨claims, _, verified, -⟩ := introspectAccess_active access active
    obtain ⟨signed, -⟩ := Option.filter_eq_some_iff.mp verified
    rw [compact_not_refresh signed] at presented
    cases presented
  · obtain ⟨-, generation, isDigest, honoured⟩ := introspectRefresh_active refresh active
    exact dead generation (Option.some.inj (isDigest.symm.trans presented)) honoured

/-! ## Along a run -/

section Runs

variable {zone : Zone} {entries : List Entry} (run : Run sha zone entries db) {seen : Db}
  (inHistory : seen ∈ states entries db)
include run inHistory

/-- A dead access token stays rejected. -/
theorem Run.rejectsAccess {token : AccessToken} (stored : token ∈ seen.accessTokens) {since : Time}
    (dead : token.revokedAt.isSome ∨ token.expiresAt ≤ since) (notEarlier : since ≤ now) :
    service.RejectsAccess sha db now token.jtiHash := by
  refine rejectsAccess_of_not_honoured fun row sameDigest honoured => ?_
  obtain ⟨-, moved⟩ := run.accesses seen inHistory token stored row honoured.stored
    (Or.inr sameDigest.symm)
  rcases moved.dead notEarlier dead with revoked | expired
  · rw [honoured.unrevoked] at revoked
    cases revoked
  · exact absurd honoured.unexpired (not_lt.mpr expired)

/-- An unrevoked family does not continue a revoked one. -/
theorem Run.family_revoked {family last : RefreshTokenFamily}
    (stored : family ∈ seen.refreshTokenFamilies) (revoked : family.revokedAt.isSome)
    (inLast : last ∈ db.refreshTokenFamilies) (sameID : last.id = family.id) :
    last.revokedAt ≠ none := by
  obtain ⟨-, moved⟩ := run.families seen inHistory family stored last inLast (Or.inl sameID.symm)
  exact Option.isSome_iff_ne_none.mp (moved.revokedAt.isSome revoked)

/-- An access token of a revoked family stays rejected. -/
theorem Run.rejectsAccess_of_family {family : RefreshTokenFamily}
    (stored : family ∈ seen.refreshTokenFamilies) (revoked : family.revokedAt.isSome) {earlier : Db}
    (inEarlier : earlier ∈ states entries db) {token : AccessToken}
    (tokenStored : token ∈ earlier.accessTokens)
    (linked : token.refreshFamilyID = some family.id) :
    service.RejectsAccess sha db now token.jtiHash := by
  refine rejectsAccess_of_not_honoured fun row sameDigest honoured => ?_
  obtain ⟨-, moved⟩ := run.accesses earlier inEarlier token tokenStored row honoured.stored
    (Or.inr sameDigest.symm)
  have stillLinked : row.refreshFamilyID = some family.id := by
    rw [moved.same]
    exact linked
  obtain ⟨last, inLast, isFamily, unrevoked⟩ := honoured.family family.id stillLinked
  exact run.family_revoked inHistory stored revoked inLast isFamily unrevoked

/-- The generations of a revoked family stay rejected. -/
theorem Run.rejectsFamily {family : RefreshTokenFamily} (stored : family ∈ seen.refreshTokenFamilies)
    (revoked : family.revokedAt.isSome) :
    service.RejectsFamily sha (states entries db) db now family.id := by
  intro earlier inEarlier generation inGenerations isMember
  have sameFamily : ∀ row ∈ db.refreshTokens, row.tokenHash = generation.tokenHash →
      row.familyID = family.id := by
    intro row inLast sameDigest
    obtain ⟨-, moved⟩ := run.generations earlier inEarlier generation inGenerations row inLast
      (Or.inr sameDigest.symm)
    rw [moved.same]
    exact isMember
  constructor
  · intro token presented client hint response answered
    refine introspect_inactive_of_not_honoured presented ?_ answered
    intro row sameDigest honoured
    obtain ⟨last, inLast, isFamily, unrevoked⟩ := honoured.family
    have isRevoked := isFamily.trans (sameFamily row honoured.stored sameDigest)
    exact run.family_revoked inHistory stored revoked inLast isRevoked unrevoked
  · intro entry took isLast input mint seenGeneration seenFamily isCall _ _ presented
    rcases took.cases with ran | ⟨failed, -⟩
    · rw [isCall, isLast] at ran
      obtain ⟨candidate, candidateFamily, result, -, ended, isOutcome⟩ := refresh_ran run.sound ran
      rw [isOutcome]
      generalize entry.after = after at ended
      cases ended with
      | reused => exact ⟨_, rfl⟩
      | rotated locks =>
        have isRevoked := locks.presentedFamily.symm.trans
          (sameFamily _ locks.presented (locks.presentedHash.trans presented))
        exact absurd locks.unrevoked
          (run.family_revoked inHistory stored revoked locks.family isRevoked)
    · exact failed

/-- What a cascade leaves dead stays rejected. -/
theorem Run.rejects_dead (service : Service) {families accesses : Selector} {since : Time}
    (dead : seen.Dead families accesses since) (notEarlier : since ≤ now) :
    (∀ family ∈ seen.refreshTokenFamilies, families.ofFamily family →
      service.RejectsFamily sha (states entries db) db now family.id) ∧
    ∀ token ∈ seen.accessTokens, accesses.ofAccess token →
      service.RejectsAccess sha db now token.jtiHash := by
  constructor
  · intro family stored selected
    exact run.rejectsFamily inHistory stored (dead.families family stored selected)
  · intro token stored selected
    exact run.rejectsAccess inHistory stored (dead.accesses token stored selected) notEarlier

end Runs

/-! ## Marks are kept -/

/-- A mark, once written on a row, is there as long as the row is. -/
def KeepsMark {ρ κ : Type} (id : ρ → κ) (mark : ρ → Option Time) (before after : List ρ) : Prop :=
  ∀ old ∈ before, ∀ new ∈ after, id new = id old → (mark old).isSome → mark new = mark old

/-- No revocation and no consumption is undone. -/
structure Db.KeepsMarks (before after : Db) : Prop where
  families : KeepsMark RefreshTokenFamily.id RefreshTokenFamily.revokedAt
    before.refreshTokenFamilies after.refreshTokenFamilies
  accesses : KeepsMark AccessToken.id AccessToken.revokedAt before.accessTokens after.accessTokens
  sessions : KeepsMark LoginSession.id LoginSession.revokedAt before.loginSessions
    after.loginSessions
  codes : KeepsMark AuthorizationCode.id AuthorizationCode.consumedAt before.authorizationCodes
    after.authorizationCodes
  generations : KeepsMark RefreshToken.id RefreshToken.consumedAt before.refreshTokens
    after.refreshTokens

theorem keepsMark_of_evolves {ρ κ : Type} {id : ρ → κ} {R : ρ → ρ → Prop} {mark : ρ → Option Time}
    {before after : List ρ} (once : ∀ old new, R old new → WrittenOnce (mark old) (mark new))
    (distinct : (before.map id).Nodup) (evolves : Evolves id R before after) :
    KeepsMark id mark before after := by
  intro old inBefore new inAfter sameID marked
  obtain ⟨time, isTime⟩ := Option.isSome_iff_exists.mp marked
  rw [isTime]
  exact once old new (evolves.continues distinct inBefore inAfter sameID) time isTime

theorem Entry.Ran.keepsMarks {entry : Entry} (took : entry.Ran sha) (sound : entry.before.Sound) :
    entry.before.KeepsMarks entry.after where
  families := keepsMark_of_evolves (fun _ _ moved => moved.revokedAt) sound.families.distinct
    took.evolved.families
  accesses := keepsMark_of_evolves (fun _ _ moved => moved.revokedAt) sound.accesses.distinct
    took.evolved.accesses
  sessions := keepsMark_of_evolves (fun _ _ moved => moved.revokedAt) sound.sessions.distinct
    took.evolved.sessions
  codes := keepsMark_of_evolves (fun _ _ moved => moved.consumedAt) sound.codes.distinct
    took.evolved.codes
  generations := keepsMark_of_evolves (fun _ _ moved => moved.consumedAt)
    sound.generations.distinct took.evolved.generations

/-! ## Disabling -/

/-- After a user or a client was disabled, and after a client lost `offline_access`, nothing of it
that existed then is accepted again; and no call of a run undoes a revocation or a consumption. -/
theorem disabling_is_final {zone : Zone} {entries : List Entry} (run : Run sha zone entries db)
    {entry : Entry} (member : entry ∈ entries) (notEarlier : NotBefore entries now) :
    (∀ commit, entry.call = .updateManagedUser commit → entry.outcome = .ok .done →
      commit.updated.status = .disabled →
        (∀ family ∈ entry.after.refreshTokenFamilies, family.userID = commit.updated.id →
          service.RejectsFamily sha (states entries db) db now family.id) ∧
        ∀ token ∈ entry.after.accessTokens, token.userID = commit.updated.id →
          service.RejectsAccess sha db now token.jtiHash) ∧
    (∀ value event, entry.call = .updateClient value event → entry.outcome = .ok .done →
      value.status = .disabled →
        (∀ family ∈ entry.after.refreshTokenFamilies, family.clientID = value.id →
          service.RejectsFamily sha (states entries db) db now family.id) ∧
        ∀ token ∈ entry.after.accessTokens, token.clientID = value.id →
          service.RejectsAccess sha db now token.jtiHash) ∧
    (∀ value event, entry.call = .updateClient value event → entry.outcome = .ok .done →
      registered entry.before value.id "offline_access" → "offline_access" ∉ value.scopes →
        ∀ family ∈ entry.after.refreshTokenFamilies, family.clientID = value.id →
          service.RejectsFamily sha (states entries db) db now family.id ∧
          ∀ token ∈ entry.after.accessTokens, token.refreshFamilyID = some family.id →
            service.RejectsAccess sha db now token.jtiHash) ∧
    entry.before.KeepsMarks entry.after := by
  obtain ⟨later, past, found⟩ := run.at member
  have inHistory := found.states entry.after List.mem_cons_self
  have onTime := notEarlier entry member
  refine ⟨?_, ?_, ?_, found.took.keepsMarks found.before.sound⟩
  · intro commit isCall answered disabled
    have ran := found.took.of_ok answered
    rw [isCall] at ran onTime
    obtain ⟨⟨row, updated⟩, -⟩ := quietly_ok.mp ran
    have dead := (updateManagedUser_ok updated).2 disabled
    have rejected := run.rejects_dead inHistory service dead ((timestamp_le _).trans onTime)
    exact ⟨fun family stored isUser => rejected.1 family stored (beq_iff_eq.mpr isUser),
      fun token stored isUser => rejected.2 token stored (beq_iff_eq.mpr isUser)⟩
  · intro value event isCall answered disabled
    have ran := found.took.of_ok answered
    rw [isCall] at ran onTime
    obtain ⟨⟨_, updated⟩, -⟩ := quietly_ok.mp ran
    have dead := (updateClient_ok updated).2.1 disabled
    have rejected := run.rejects_dead inHistory service dead ((timestamp_le _).trans onTime)
    exact ⟨fun family stored isClient => rejected.1 family stored (beq_iff_eq.mpr isClient),
      fun token stored isClient => rejected.2 token stored (beq_iff_eq.mpr isClient)⟩
  · intro value event isCall answered offline removed family stored isClient
    have ran := found.took.of_ok answered
    rw [isCall] at ran
    obtain ⟨⟨_, updated⟩, -⟩ := quietly_ok.mp ran
    have dead := (updateClient_ok updated).2.2 offline removed
    have revoked := dead.families family stored (beq_iff_eq.mpr isClient)
    exact ⟨run.rejectsFamily inHistory stored revoked, fun token inTokens linked =>
      run.rejectsAccess_of_family inHistory stored revoked inHistory inTokens linked⟩

/-- The sample user, disabled after the exchange. -/
def Sample.userDisabled : Entry :=
  .calm Sample.sha
    (.updateManagedUser
      { updated := { user with status := .disabled, updatedAt := at' 30 }, revokeSessions := false
        event := event 100, sessionEvent := none }) exchanged.after

theorem Sample.userDisabled_run :
    Run Sample.sha .utc (userDisabled :: exchanged :: flow) userDisabled.after :=
  exchanged_run.quiet _ (by simp [Call.reads]) (by simp [Call.kinds])

theorem disabling_is_final_sample :
    ∃ family ∈ Sample.userDisabled.after.refreshTokenFamilies, family.id = 10 ∧
      Sample.service.RejectsFamily Sample.sha
        (states (Sample.userDisabled :: Sample.exchanged :: Sample.flow) Sample.userDisabled.after)
        Sample.userDisabled.after (Sample.at' 50) family.id := by
  have notEarlier : NotBefore (Sample.userDisabled :: Sample.exchanged :: Sample.flow)
      (Sample.at' 50) := by
    unfold NotBefore
    decide +kernel
  obtain ⟨answered, family, stored, isUser, isFamily⟩ :
      Sample.userDisabled.outcome = .ok .done ∧
        ∃ family ∈ Sample.userDisabled.after.refreshTokenFamilies, family.userID = 1 ∧
          family.id = 10 := by
    decide +kernel
  exact ⟨family, stored, isFamily, ((disabling_is_final Sample.userDisabled_run
    List.mem_cons_self notEarlier).1 _ rfl answered rfl).1 family stored isUser⟩

end OneIssuer
