import OneIssuer.Agreement
import OneIssuer.Retention

/-!
# Access-token lifetimes

Minting computes the end of an access token from its own lifetime; acceptance also looks at the
family the token belongs to. As long as nothing touches the authority of a token, it is accepted up
to its `exp` exactly while its family lasts, and while its claims can be written as `int64` times.

**What it does not establish.** What a token is worth after a step that touches its rows (`Finality`),
and whether the signature verifies: that the service reads back the claims it signed is a premise.
-/

set_option autoImplicit false

namespace OneIssuer

open Relational Token Store Consent

/-! ## Claims -/

/-- The times of the claims are in the range of the verification. -/
def Token.MintingService.Dated (service : MintingService) (issuedAt : Time) : Prop :=
  0 < issuedAt.unix ∧ (issuedAt + service.accessTokenTTL).unix + 62135596800 < 2 ^ 63

section Claims

variable {service : MintingService} {issuedAt now : Time}

/-- A time in the range of `int64` is its own claim. -/
theorem claimTime_toInt {t : Time} (low : -2 ^ 63 ≤ t.unix) (high : t.unix < 2 ^ 63) :
    (claimTime t).toInt = t.unix := by
  rw [claimTime, Int64.toInt_ofInt_of_le low high]

theorem timeUnix_eq {value : Int64} (low : -2 ^ 63 ≤ value.toInt + 62135596800)
    (high : value.toInt + 62135596800 < 2 ^ 63) :
    timeUnix value = seconds (value.toInt + 62135596800) := by
  have literal : (62135596800 : Int64).toInt = 62135596800 := by decide
  rw [timeUnix, Int64.toInt_add, literal, Int.bmod_eq_of_le (by lia) (by lia)]

/-- A sum that leaves the range comes back by `2 ^ 64`. -/
theorem timeUnix_wraps (value : Int64) (high : 2 ^ 63 ≤ value.toInt + 62135596800) :
    timeUnix value = seconds (value.toInt + 62135596800 - 2 ^ 64) := by
  have bound := value.toInt_lt
  have literal : (62135596800 : Int64).toInt = 62135596800 := by decide
  have wraps : (value.toInt + 62135596800).bmod (2 ^ 64) = value.toInt + 62135596800 - 2 ^ 64 := by
    simp only [Int.bmod]
    lia
  rw [timeUnix, Int64.toInt_add, literal, wraps]

theorem timeUnix_neg (value : Int64) (high : 2 ^ 63 ≤ value.toInt + 62135596800) :
    timeUnix value < 0 := by
  have bound := value.toInt_lt
  rw [timeUnix_wraps value high, seconds]
  lia

theorem unix_timestamp (t : Time) : (timestamp t).unix = t.unix := by
  simp only [Time.unix, timestamp, microseconds]
  lia

/-- Until `exp`, the times of the claims are accepted and equal to those of the row exactly when they
are in range. -/
theorem dated_iff (started : issuedAt ≤ now)
    (running : now.unix < (claimTime (issuedAt + service.accessTokenTTL)).toInt) :
    (let iat := claimTime issuedAt
     let exp := claimTime (issuedAt + service.accessTokenTTL)
     (0 < iat ∧ iat < exp ∧ now - service.clockSkew ≤ timeUnix exp ∧
        timeUnix iat ≤ now + service.clockSkew ∧ (exp - iat) * 1000000000 ≤ 1800000000000) ∧
      iat.toInt = issuedAt.unix ∧ exp.toInt = (issuedAt + service.accessTokenTTL).unix) ↔
      service.Dated issuedAt := by
  obtain ⟨least, most⟩ := service.accessTokenTTL_valid
  obtain ⟨forward, small⟩ := service.clockSkew_valid
  simp only [minutes, seconds] at least most small
  constructor
  · rintro ⟨⟨positive, -, notAfter, -, -⟩, isIssued, isExpiry⟩
    rw [Int64.lt_iff_toInt_lt, isIssued] at positive
    have positive : 0 < issuedAt.unix := positive
    refine ⟨positive, ?_⟩
    by_contra outside
    have negative := timeUnix_neg (claimTime (issuedAt + service.accessTokenTTL))
      (by rw [isExpiry]; lia)
    simp only [Time.unix] at positive
    lia
  · rintro ⟨positive, inRange⟩
    have later : issuedAt.unix < (issuedAt + service.accessTokenTTL).unix := by
      simp only [Time.unix]
      lia
    have bounded : (issuedAt + service.accessTokenTTL).unix ≤ issuedAt.unix + 1800 := by
      simp only [Time.unix]
      lia
    have isIssued := claimTime_toInt (t := issuedAt) (by lia) (by lia)
    have isExpiry := claimTime_toInt (t := issuedAt + service.accessTokenTTL) (by lia) (by lia)
    rw [isExpiry] at running
    refine ⟨⟨?_, ?_, ?_, ?_, ?_⟩, isIssued, isExpiry⟩
    · rw [Int64.lt_iff_toInt_lt, isIssued]
      exact positive
    · rw [Int64.lt_iff_toInt_lt, isIssued, isExpiry]
      exact later
    · rw [timeUnix_eq (by lia) (by lia), isExpiry]
      simp only [Time.unix, seconds] at running ⊢
      lia
    · rw [timeUnix_eq (by lia) (by lia), isIssued]
      simp only [Time.unix, seconds]
      lia
    · have difference : (claimTime (issuedAt + service.accessTokenTTL) - claimTime issuedAt).toInt =
          (issuedAt + service.accessTokenTTL).unix - issuedAt.unix := by
        rw [Int64.toInt_sub, isIssued, isExpiry, Int.bmod_eq_of_le (by lia) (by lia)]
      have scale : (1000000000 : Int64).toInt = 1000000000 := by decide
      have limit : (1800000000000 : Int64).toInt = 1800000000000 := by decide
      rw [Int64.le_iff_toInt_le, Int64.toInt_mul, difference, scale, limit,
        Int.bmod_eq_of_le (by lia) (by lia)]
      lia

end Claims

/-! ## Acceptance -/

/-- The family belongs to the access token and is not revoked. -/
structure AccessToken.BackedBy (token : AccessToken) (family : RefreshTokenFamily) : Prop where
  unrevoked : family.revokedAt = none
  user : family.userID = token.userID
  client : family.clientID = token.clientID
  grant : family.consentGrantID = token.consentGrantID
  binding : token.sessionBindingID = some family.sessionBindingID
  scopes : ∀ scope ∈ token.scopes, scope ∈ family.scopes

/-- The rows behind an access token that the service minted at `issuedAt`. -/
structure Db.Stands (db : Db) (service : MintingService) (sha : Sha256) (jti : RandomBytes 16)
    (issuedAt : Time) (token : AccessToken) (user : User) (row : ClientRow) (grant : ConsentGrant) :
    Prop where
  stored : token ∈ db.accessTokens
  notNil : token.id ≠ Uuid.nil
  unrevoked : token.revokedAt = none
  digest : token.jtiHash = hashJTI sha (newJTI jti)
  issued : token.issuedAt = timestamp issuedAt
  expires : token.expiresAt = timestamp (issuedAt + service.accessTokenTTL)
  source : sourceMatches token
  inUsers : user ∈ db.users
  userID : user.id = token.userID
  userNotNil : token.userID ≠ Uuid.nil
  userActive : user.status = .active
  inClients : row ∈ db.clients
  clientID : row.id = token.clientID
  clientActive : activeClient (db.clientOf row)
  registered : ∀ scope ∈ token.scopes, scope ∈ (db.clientOf row).scopes
  inGrants : grant ∈ db.consentGrants
  grantID : grant.id = token.consentGrantID
  grantNotNil : token.consentGrantID ≠ Uuid.nil
  grantUser : grant.userID = token.userID
  grantClient : grant.clientID = token.clientID
  granted : grant.revokedAt = none
  covered : ∀ scope ∈ token.scopes, scope ∈ grant.scopes
  family : ∀ id, token.refreshFamilyID = some id →
    ∃ family ∈ db.refreshTokenFamilies, family.id = id ∧ token.BackedBy family

section Acceptance

variable {sha : Sha256} {db : Db} {service : MintingService} {jti : RandomBytes 16}
  {issuedAt now : Time} {token : AccessToken} {user : User} {row : ClientRow} {grant : ConsentGrant}

/-- Stored scopes are one of the sorted sets. -/
theorem stored_listed (sound : db.Sound) (stored : token ∈ db.accessTokens) :
    token.scopes ∈ supportedScopes.sublists := by
  obtain ⟨sorted, -, allSupported⟩ := stored_scopes sound stored
  refine sublist_of_sorted ?_ allSupported
  rw [← beq_iff_eq.mp sorted]
  exact sortedSet_pairwise _

/-- The rows of a token that stands, as a snapshot. -/
def snapshot (db : Db) (token : AccessToken) (user : User) (row : ClientRow)
    (grant : ConsentGrant) : AccessAuthority :=
  { metadata := token, grant, user, client := db.clientOf row
    family := token.refreshFamilyID.bind db.family? }

theorem accessAuthority_of_stands (sound : db.Sound)
    (stands : db.Stands service sha jti issuedAt token user row grant) (notZero : now ≠ 0)
    (unexpired : now < token.expiresAt) :
    accessAuthority db token.jtiHash now = .ok (snapshot db token user row grant) := by
  have clientActive : (db.clientOf row).status = .active := by
    have active := stands.clientActive
    simp only [activeClient, Bool.and_eq_true, beq_iff_eq] at active
    exact active.1.2
  have named (id : Uuid) (isNamed : token.refreshFamilyID = some id) :
      ∃ family ∈ db.refreshTokenFamilies, family.id = id ∧
        token.refreshFamilyID.bind db.family? = some family := by
    obtain ⟨family, inFamilies, isFamily, -⟩ := stands.family id isNamed
    refine ⟨family, inFamilies, isFamily, ?_⟩
    rw [isNamed]
    exact (find?_key sound.families.distinct).mpr ⟨inFamilies, isFamily⟩
  refine (accessAuthority_iff sound).mpr
    { timed := by simpa [Time.isZero] using notZero
      metadata := stands.stored, digest := rfl, unexpired, user := stands.inUsers
      userID := stands.userID, userActive := stands.userActive
      client := ⟨row, stands.inClients, stands.clientID, rfl⟩, grant := stands.inGrants
      grantID := stands.grantID, family := fun family isFamily => ?_
      sized := by rw [stands.digest]; exact sha.length_sum _
      clientActive, grantUser := stands.grantUser, grantClient := stands.grantClient
      noFamily := fun unnamed => ?_, named }
  · obtain ⟨id, -, found⟩ := Option.bind_eq_some_iff.mp isFamily
    exact List.mem_of_find?_eq_some found
  · have unnamed : token.refreshFamilyID = none := unnamed
    simp only [snapshot, unnamed, Option.bind_none]

/-- The claims of an access token that stands. -/
def standingClaims (service : MintingService) (db : Db) (jti : RandomBytes 16) (issuedAt : Time)
    (token : AccessToken) (user : User) (row : ClientRow) : AccessTokenClaims :=
  service.accessClaims user (db.clientOf row) token.scopes issuedAt (newJTI jti)

/-- Verification looks at the times of the claims only. -/
theorem claimsValid_iff (sound : db.Sound)
    (stands : db.Stands service sha jti issuedAt token user row grant) :
    service.claimsValid (standingClaims service db jti issuedAt token user row) now ↔
      0 < claimTime issuedAt ∧
        claimTime issuedAt < claimTime (issuedAt + service.accessTokenTTL) ∧
        now - service.clockSkew ≤ timeUnix (claimTime (issuedAt + service.accessTokenTTL)) ∧
        timeUnix (claimTime issuedAt) ≤ now + service.clockSkew ∧
        (claimTime (issuedAt + service.accessTokenTTL) - claimTime issuedAt) * 1000000000 ≤
          1800000000000 := by
  obtain ⟨-, openid, -⟩ := stored_scopes sound stands.stored
  have subject : user.subject ≠ "" := by
    have valid := sound.users.valid user stands.inUsers
    intro isEmpty
    simp [checkViolation_eq_none, User.checks, isEmpty, lengthBetween] at valid
  have clientID : (db.clientOf row).clientID ≠ "" := by
    have active := stands.clientActive
    simp only [activeClient, Bool.and_eq_true, bne_iff_ne, ne_eq] at active
    exact active.1.1.2
  have parsed := parseScopeClaim_listed token.scopes (stored_listed sound stands.stored) openid
  simp only [Service.claimsValid, Bool.and_eq_true, and_assoc]
  constructor
  · rintro ⟨-, -, -, -, positive, ordered, notAfter, notBefore, short, -, -⟩
    exact ⟨of_decide_eq_true positive, of_decide_eq_true ordered, of_decide_eq_true notAfter,
      of_decide_eq_true notBefore, of_decide_eq_true short⟩
  · rintro ⟨positive, ordered, notAfter, notBefore, short⟩
    exact ⟨beq_self_eq_true _, beq_self_eq_true _, bne_iff_ne.mpr subject, bne_iff_ne.mpr clientID,
      decide_eq_true positive, decide_eq_true ordered, decide_eq_true notAfter,
      decide_eq_true notBefore, decide_eq_true short, validJTI_newJTI jti, by
        rw [standingClaims, MintingService.accessClaims, parsed]
        simpa using openid⟩

/-- The family of a token that stands matches while it lasts. -/
theorem familyMatches_iff (sound : db.Sound)
    (stands : db.Stands service sha jti issuedAt token user row grant) :
    familyMatches (snapshot db token user row grant) token.scopes now ↔
      ∀ family ∈ db.refreshTokenFamilies, token.refreshFamilyID = some family.id →
        now < family.absoluteExpiresAt := by
  cases named : token.refreshFamilyID with
  | none => simp [familyMatches, snapshot, named]
  | some id =>
    obtain ⟨family, inFamilies, isFamily, backs⟩ := stands.family id named
    have found : db.family? id = some family :=
      (find?_key sound.families.distinct).mpr ⟨inFamilies, isFamily⟩
    have familyScopes : (canonicalRefreshScopes family.scopes).any fun scopes =>
        scopeSubset token.scopes scopes := by
      have valid : (scopesValid 2 family.scopes && family.scopes.contains "offline_access") = true :=
        sound.families.check inFamilies "refresh_token_families_scopes_valid"
          (by simp [RefreshTokenFamily.checks])
      simp only [scopesValid, Bool.and_eq_true, List.contains_iff_mem] at valid
      obtain ⟨⟨⟨⟨-, known⟩, openid⟩, sorted⟩, offline⟩ := valid
      have listed : family.scopes ∈ supportedScopes.sublists := by
        refine sublist_of_sorted ?_ fun scope member => ?_
        · rw [← beq_iff_eq.mp sorted]
          exact sortedSet_pairwise _
        · have isKnown := List.all_eq_true.mp known scope member
          exact mem_supportedScopes.mp (by simpa [supportedScopes] using isKnown)
      have canonical := canonicalScopes_listed family.scopes listed openid
      simp only [canonicalRefreshScopes, canonical, Option.filter_some, List.contains_iff_mem.mpr openid,
        List.contains_iff_mem.mpr offline, Bool.and_self, if_true, Option.any_some]
      exact scopeSubset_iff.mpr backs.scopes
    simp only [familyMatches, snapshot, named, Option.bind_some, found, isFamily, backs.unrevoked,
      backs.user, backs.client,
      backs.grant, backs.binding, familyScopes, beq_self_eq_true, Option.isNone_none, Bool.and_true,
      Bool.true_and, decide_eq_true_eq, Option.some.injEq]
    constructor
    · intro unexpired other inTable sameID
      obtain rfl := sound.families.unique inTable inFamilies (sameID.symm.trans isFamily.symm)
      exact unexpired
    · exact fun lasting => lasting family inFamilies isFamily.symm

/-- The rows of a token that stands match its claims while the family lasts, when the times of the
claims are those of the row. -/
theorem matches_iff (sound : db.Sound)
    (stands : db.Stands service sha jti issuedAt token user row grant)
    (unexpired : now < token.expiresAt) (notZero : token.issuedAt ≠ 0) :
    service.accessAuthorityMatches sha (snapshot db token user row grant)
        (standingClaims service db jti issuedAt token user row) now ↔
      (∀ family ∈ db.refreshTokenFamilies, token.refreshFamilyID = some family.id →
        now < family.absoluteExpiresAt) ∧
      (claimTime issuedAt).toInt = issuedAt.unix ∧
      (claimTime (issuedAt + service.accessTokenTTL)).toInt =
        (issuedAt + service.accessTokenTTL).unix := by
  obtain ⟨-, openid, allSupported⟩ := stored_scopes sound stands.stored
  have listed := stored_listed sound stands.stored
  have canonical := canonicalScopes_listed token.scopes listed openid
  have parsed := parseScopeClaim_listed token.scopes listed openid
  have active : authorityActive (snapshot db token user row grant) now := by
    have clientNotNil : token.clientID ≠ Uuid.nil := by
      have active := stands.clientActive
      simp only [activeClient, Bool.and_eq_true, bne_iff_ne, ne_eq] at active
      rw [← stands.clientID]
      exact active.1.1.1
    have sized : token.jtiHash.length = sha256Size := by
      rw [stands.digest]
      exact sha.length_sum _
    have lasts : token.issuedAt < token.expiresAt := by
      rw [stands.issued, stands.expires]
      exact timestamp_lt_add (le_trans (by decide) service.accessTokenTTL_valid.1)
    have version : decide (0 < grant.version) = true :=
      sound.grants.check stands.inGrants "consent_grants_version_valid" (by simp [ConsentGrant.checks])
    have clientID : (db.clientOf row).id = token.clientID := stands.clientID
    simp only [authorityActive, snapshot, Bool.and_eq_true, bne_iff_ne, ne_eq, beq_iff_eq,
      Option.isNone_iff_eq_none, Time.isZero, Bool.not_eq_true', beq_eq_false_iff_ne, and_assoc]
    exact ⟨stands.notNil, stands.grantNotNil, stands.unrevoked, stands.userNotNil, clientNotNil, sized,
      decide_eq_true unexpired, notZero, decide_eq_true lasts, stands.userID, stands.userActive,
      clientID, stands.clientActive, stands.grantID, stands.grantUser, stands.grantClient, version,
      stands.granted⟩
  have covered : (difference token.scopes
      (intersection grant.scopes (db.clientOf row).scopes)).isEmpty := by
    refine List.isEmpty_iff.mpr (difference_eq_nil.mpr fun scope member isSupported => ?_)
    exact mem_intersection.mpr ⟨stands.covered scope member, isSupported,
      stands.registered scope member⟩
  unfold Service.accessAuthorityMatches
  simp only [snapshot, canonical]
  simp only [Bool.and_eq_true, and_assoc]
  constructor
  · rintro ⟨-, -, family, -, -, -, claims⟩
    simp only [Service.claimsMatch, Bool.and_eq_true, beq_iff_eq, and_assoc] at claims
    obtain ⟨-, -, -, -, isIssued, isExpiry, -⟩ := claims
    rw [stands.issued, unix_timestamp] at isIssued
    rw [stands.expires, unix_timestamp] at isExpiry
    exact ⟨(familyMatches_iff sound stands).mp family, isIssued, isExpiry⟩
  · rintro ⟨lasting, isIssued, isExpiry⟩
    refine ⟨active, stands.source, (familyMatches_iff sound stands).mpr lasting, ?_,
      scopeSubset_iff.mpr stands.registered, covered, ?_⟩
    · rw [standingClaims, MintingService.accessClaims, parsed]
      exact beq_self_eq_true _
    · simp only [Service.claimsMatch, Bool.and_eq_true, beq_iff_eq, and_assoc]
      refine ⟨rfl, rfl, rfl, rfl, ?_, ?_, stands.digest.symm⟩
      · rw [stands.issued, unix_timestamp]
        exact isIssued
      · rw [stands.expires, unix_timestamp]
        exact isExpiry

/-- A token that stands is accepted until `exp` while its family lasts, when its claims are in
range. -/
theorem accepted_iff (sound : db.Sound)
    (stands : db.Stands service sha jti issuedAt token user row grant) (started : issuedAt ≤ now)
    (running : now.unix < (claimTime (issuedAt + service.accessTokenTTL)).toInt) {compact : String}
    (signed : service.signedClaims compact =
      some (standingClaims service db jti issuedAt token user row)) :
    (service.verifyAccessToken compact now =
          some (standingClaims service db jti issuedAt token user row) ∧
        accessAuthority db token.jtiHash now = .ok (snapshot db token user row grant) ∧
        service.accessAuthorityMatches sha (snapshot db token user row grant)
          (standingClaims service db jti issuedAt token user row) now) ↔
      service.Dated issuedAt ∧ ∀ family ∈ db.refreshTokenFamilies,
        token.refreshFamilyID = some family.id → now < family.absoluteExpiresAt := by
  have verified : service.verifyAccessToken compact now =
        some (standingClaims service db jti issuedAt token user row) ↔
      service.claimsValid (standingClaims service db jti issuedAt token user row) now := by
    simp [Service.verifyAccessToken, signed, Option.filter_eq_some_iff]
  rw [verified, claimsValid_iff sound stands, ← dated_iff started running]
  constructor
  · rintro ⟨valid, read, accepted⟩
    have found := accessAuthority_ok read
    have unexpired : now < token.expiresAt := found.unexpired
    have notZero : token.issuedAt ≠ 0 := by
      unfold Service.accessAuthorityMatches at accepted
      split at accepted
      · cases accepted
      · simp only [authorityActive, snapshot, Bool.and_eq_true, Time.isZero, Bool.not_eq_true',
          beq_eq_false_iff_ne, and_assoc] at accepted
        obtain ⟨-, -, -, -, -, -, -, notZero, -⟩ := accepted
        exact notZero
    obtain ⟨lasting, times⟩ := (matches_iff sound stands unexpired notZero).mp accepted
    exact ⟨⟨valid, times⟩, lasting⟩
  · rintro ⟨⟨valid, times⟩, lasting⟩
    have dated := (dated_iff started running).mp ⟨valid, times⟩
    have positive := dated.1
    have notZero : token.issuedAt ≠ 0 := by
      rw [stands.issued]
      intro isZero
      rw [← unix_timestamp, isZero] at positive
      exact absurd positive (by decide)
    have unexpired : now < token.expiresAt := by
      rw [times.2] at running
      rw [stands.expires]
      simp only [Time.unix, timestamp, microseconds] at running ⊢
      lia
    refine ⟨valid, accessAuthority_of_stands sound stands ?_ unexpired,
      (matches_iff sound stands unexpired notZero).mpr ⟨lasting, times⟩⟩
    rintro rfl
    simp only [Time.unix] at positive
    lia

end Acceptance

/-! ## Issue -/

/-- The time of a request for tokens. -/
def Issuance.now : Issuance → Time
  | .exchange input _ => input.now
  | .refresh input _ _ _ => input.now

/-- The identifier of the access token a request creates. -/
def Issuance.accessTokenID : Issuance → Uuid
  | .exchange _ entropy => entropy.accessTokenID
  | .refresh _ entropy _ _ => entropy.accessTokenID

/-- The random value behind its token identifier. -/
def Issuance.jti : Issuance → RandomBytes 16
  | .exchange _ entropy => entropy.jti
  | .refresh _ entropy _ _ => entropy.jti

section Issue

variable {sha : Sha256} {zone : Zone} {service : MintingService} {entry : Entry} {past : List Entry}
  {response : Response}

theorem exchange_stands {input : ExchangeInput} {entropy : ExchangeEntropy}
    (before : Run sha zone past entry.before) (took : entry.Ran sha)
    (isCall : entry.call = (Issuance.exchange input entropy).call sha service)
    (answered : entry.outcome = .ok (.tokens response)) :
    ∃ token user row grant,
      entry.after.Stands service sha entropy.jti input.now token user row grant ∧
        token.id = entropy.accessTokenID ∧
        service.signer.signAccess
          (standingClaims service entry.after entropy.jti input.now token user row) =
          some response.accessToken := by
  have afterSound := took.sound before.sound
  have ran := took.of_ok answered
  rw [isCall] at ran
  obtain ⟨result, ended, same⟩ := exchange_ran before.sound ran
  generalize isAfter : entry.after = after at ended afterSound
  cases ended with
  | replayed => cases same
  | @exchanged code locked events _ _ _ locks bound =>
    cases same
    obtain ⟨user, inUsers, isUser, row, inClients, isRow, isMinted⟩ := locks.minted
    obtain ⟨active, inActive, isActive, status⟩ := locks.user
    obtain rfl := before.sound.users.unique inActive inUsers (isActive.trans isUser.symm)
    obtain ⟨scopes, canonical, allowed, tokenID, issuedAt, signed, -⟩ := mint_ok isMinted
    have inserted : exchangedAccess code locked ∈ entry.before.accessTokens ++
        [exchangedAccess code locked] := List.mem_append_right _ List.mem_cons_self
    obtain ⟨-, openid, -⟩ := stored_scopes afterSound inserted
    have listed := canonicalScopes_listed _ (stored_listed afterSound inserted) openid
    obtain rfl : scopes = locked.scopes := Option.some.inj (canonical.symm.trans listed)
    simp only [mintable, exchangedAuthority, Bool.and_eq_true, bne_iff_ne, ne_eq, and_assoc]
      at allowed
    obtain ⟨-, grantNotNil, userNotNil, -, clientActive, -, -, registered⟩ := allowed
    refine ⟨exchangedAccess code locked, active, row, locked.grant, ?_, tokenID, ?_⟩
    · exact
        { stored := inserted
          notNil := by rw [exchangedAccess, tokenID]; exact entropy.accessTokenID.2
          unrevoked := rfl, digest := signed.jtiHash, issued := congrArg timestamp issuedAt
          expires := congrArg timestamp signed.expiresAt, source := rfl, inUsers, userID := isUser
          userNotNil := by rw [exchangedAccess, ← isUser]; exact userNotNil
          userActive := status, inClients, clientID := isRow, clientActive
          registered := scopeSubset_iff.mp registered, inGrants := locks.grant
          grantID := rfl, grantNotNil, grantUser := locks.grantUser
          grantClient := locks.grantClient, granted := locks.unrevoked, covered := locks.covered
          family := by
            intro id named
            obtain ⟨initial, isInitial, rfl⟩ := Option.map_eq_some_iff.mp named
            obtain ⟨binding, isBinding⟩ := Option.isSome_iff_exists.mp (bound initial isInitial)
            refine ⟨initialFamily code locked binding initial, List.mem_append_right _ ?_, rfl, ?_⟩
            · simp [initialRows, isInitial, isBinding]
            · exact ⟨rfl, rfl, rfl, rfl, isBinding, fun _ member => member⟩ }
    · exact signed.signed

theorem refresh_stands {input : RefreshInput} {entropy : RefreshEntropy}
    {seenGeneration seenFamily : Db} (before : Run sha zone past entry.before)
    (took : entry.Ran sha)
    (isCall : entry.call =
      (Issuance.refresh input entropy seenGeneration seenFamily).call sha service)
    (answered : entry.outcome = .ok (.tokens response)) :
    ∃ token user row grant,
      entry.after.Stands service sha entropy.jti input.now token user row grant ∧
        token.id = entropy.accessTokenID ∧
        service.signer.signAccess
          (standingClaims service entry.after entropy.jti input.now token user row) =
          some response.accessToken := by
  have afterSound := took.sound before.sound
  have ran := took.of_ok answered
  rw [isCall] at ran
  obtain ⟨candidate, candidateFamily, result, -, ended, same⟩ := refresh_ran before.sound ran
  generalize isAfter : entry.after = after at ended afterSound
  cases ended with
  | reused => cases same
  | @rotated locked accessScopes minted events locks _ _ selected _ _ _ isMinted =>
    cases same
    obtain ⟨row, inClients, isRow, isClient⟩ := locks.client
    obtain ⟨scopes, accessToken, canonical, allowed, -, signed, rfl⟩ := mintRefresh_ok.mp isMinted
    let token := refreshedAccess locked accessScopes
      { accessTokenID := entropy.accessTokenID, jtiHash := hashJTI sha (newJTI entropy.jti)
        accessToken, issuedAt := input.now, accessExpiresAt := input.now + service.accessTokenTTL
        replacementTokenID := entropy.replacementID
        replacementTokenHash := hashRefreshToken sha (generateRefreshToken entropy.refreshToken)
        replacementClearToken := generateRefreshToken entropy.refreshToken
        replacementExpiresAt :=
          min (input.now + service.refreshTokenTTL) locked.family.absoluteExpiresAt }
    have inserted : token ∈ entry.before.accessTokens ++ [token] :=
      List.mem_append_right _ List.mem_cons_self
    obtain ⟨-, openid, -⟩ := stored_scopes afterSound inserted
    have listed := canonicalScopes_listed _ (stored_listed afterSound inserted) openid
    obtain rfl : scopes = accessScopes := Option.some.inj (canonical.symm.trans listed)
    obtain ⟨grantNotNil, userNotNil⟩ := before.grants_notNil locked.grant locks.grant
    have clientID : row.id = locked.family.clientID := by
      rw [locks.familyClient, isClient]
      rfl
    have grantUser : locked.grant.userID = locked.family.userID := by
      rw [locks.grantUser, ← locks.userID, locks.familyUser]
    simp only [refreshMintable, refreshedAuthority, Bool.and_eq_true, and_assoc] at allowed
    obtain ⟨-, -, -, -, -, -, -, clientActive, -, -, -, inFamily, inClient⟩ := allowed
    rw [isClient] at clientActive inClient
    refine ⟨token, locked.user, row, locked.grant, ?_, rfl, ?_⟩
    · exact
        { stored := inserted, notNil := entropy.accessTokenID.2, unrevoked := rfl, digest := rfl
          issued := rfl, expires := rfl, source := rfl, inUsers := locks.user
          userID := locks.familyUser.symm
          userNotNil := by rw [grantUser] at userNotNil; exact userNotNil
          userActive := locks.active, inClients, clientID, clientActive
          registered := scopeSubset_iff.mp inClient, inGrants := locks.grant, grantID := rfl
          grantNotNil, grantUser
          grantClient := locks.grantClient.trans (isRow.symm.trans clientID)
          granted := locks.granted
          covered := fun scope member => (selectRefreshAccessScopes_ok selected scope member).2.1
          family := by
            rintro _ ⟨⟩
            exact ⟨locked.family, locks.family, rfl, locks.unrevoked, rfl, rfl,
              locks.familyGrant, rfl, scopeSubset_iff.mp inFamily⟩ }
    · rw [refreshedAuthority, isClient] at signed
      exact signed

theorem Issuance.stands {db : Db} (run : Run sha zone (entry :: past) db) (issuance : Issuance)
    (isCall : entry.call = issuance.call sha service)
    (answered : entry.outcome = .ok (.tokens response)) :
    ∃ token user row grant,
      db.Stands service sha issuance.jti issuance.now token user row grant ∧
        token.id = issuance.accessTokenID ∧
        service.signer.signAccess
          (standingClaims service db issuance.jti issuance.now token user row) =
          some response.accessToken := by
  cases run with
  | step before took _ _ =>
    cases issuance with
    | exchange input entropy => exact exchange_stands before took isCall answered
    | refresh input entropy seenGeneration seenFamily =>
      exact refresh_stands before took isCall answered

end Issue

/-! ## Until the end -/

/-- Nothing has happened to the authority of the access token: its user and its client are active, the
scopes of the client and the grant are what they were, and neither its family nor the token itself is
revoked. -/
structure Db.Untouched (issued db : Db) (token : AccessToken) : Prop where
  user : ∀ user ∈ db.users, user.id = token.userID → user.status = .active
  client : ∀ row ∈ db.clients, row.id = token.clientID →
    row.status = .active ∧ (db.clientOf row).scopes = (issued.clientOf row).scopes
  grant : ∀ grant ∈ db.consentGrants, grant.id = token.consentGrantID → grant ∈ issued.consentGrants
  family : ∀ family ∈ db.refreshTokenFamilies, token.refreshFamilyID = some family.id →
    family.revokedAt = none
  access : ∀ row ∈ db.accessTokens, row.id = token.id → row.revokedAt = none

section Lifetime

variable {sha : Sha256} {zone : Zone} {service : MintingService} {entry : Entry}
  {later past : List Entry} {db issued : Db} {issuance : Issuance} {response : Response}
  {token : AccessToken} {now : Time}

/-- A token that nothing touched still stands, with the same claims. -/
theorem Db.Stands.carried {jti : RandomBytes 16} {issuedAt : Time} {user : User} {row : ClientRow}
    {grant : ConsentGrant} (issuedSound : issued.Sound)
    (stands : issued.Stands service sha jti issuedAt token user row grant)
    (carries : issued.Carries db token) (untouched : issued.Untouched db token) :
    ∃ kept user' row' grant', db.Stands service sha jti issuedAt kept user' row' grant' ∧
      kept.id = token.id ∧ kept.refreshFamilyID = token.refreshFamilyID ∧
      kept.clientID = token.clientID ∧
      standingClaims service db jti issuedAt kept user' row' =
        standingClaims service issued jti issuedAt token user row := by
  obtain ⟨kept, inAccesses, keptID, moved⟩ := carries.access
  obtain ⟨user', inUsers, userID⟩ := carries.users.kept user stands.inUsers
  obtain ⟨row', inClients, rowID⟩ := carries.clients.kept row stands.inClients
  obtain ⟨grant', inGrants, grantID⟩ := carries.grants.kept grant stands.inGrants
  have userMoved := carries.users.evolves.continues issuedSound.users.distinct stands.inUsers inUsers
    userID
  have rowMoved := carries.clients.evolves.continues issuedSound.clients.distinct stands.inClients
    inClients rowID
  have isUser : user'.id = token.userID := userID.trans stands.userID
  have isRow : row'.id = token.clientID := rowID.trans stands.clientID
  obtain ⟨rowActive, sameScopes⟩ := untouched.client row' inClients isRow
  obtain rfl : grant' = grant := by
    have unchanged := untouched.grant grant' inGrants (grantID.trans stands.grantID)
    exact issuedSound.grants.unique unchanged stands.inGrants grantID
  have scopesOf : (issued.clientOf row').scopes = (issued.clientOf row).scopes := by
    simp only [Db.clientOf, mapClient, rowID]
  have active : activeClient (db.clientOf row') := by
    have was := stands.clientActive
    simp only [activeClient, Db.clientOf, mapClient, Bool.and_eq_true] at was ⊢
    rw [rowID, rowMoved.clientID, rowMoved.clientType, rowMoved.tokenEndpointAuthMethod]
    exact ⟨⟨was.1.1, beq_iff_eq.mpr rowActive⟩, was.2⟩
  refine ⟨kept, user', row', grant', ?_, keptID, by rw [moved.same], by rw [moved.same], ?_⟩
  · have unrevoked := untouched.access kept inAccesses keptID
    exact
      { stored := inAccesses, notNil := keptID ▸ stands.notNil, unrevoked
        digest := by rw [moved.same]; exact stands.digest
        issued := by rw [moved.same]; exact stands.issued
        expires := by rw [moved.same]; exact stands.expires
        source := by
          have was := stands.source
          rw [moved.same]
          simp only [sourceMatches] at was ⊢
          split at was
          · exact was
          · rcases moved.authorizationCodeID with sameCode | forgotten
            · rw [sameCode]
              exact was
            · rw [forgotten]
              simp only [Bool.and_eq_true] at was ⊢
              exact ⟨⟨⟨rfl, was.1.1.2⟩, was.1.2⟩, was.2⟩
        inUsers, userID := by rw [moved.same]; exact isUser
        userNotNil := by rw [moved.same]; exact stands.userNotNil
        userActive := untouched.user user' inUsers isUser
        inClients, clientID := by rw [moved.same]; exact isRow
        clientActive := active
        registered := by
          intro scope member
          rw [moved.same] at member
          rw [sameScopes, scopesOf]
          exact stands.registered scope member
        inGrants, grantID := by rw [moved.same]; exact stands.grantID
        grantNotNil := by rw [moved.same]; exact stands.grantNotNil
        grantUser := by rw [moved.same]; exact stands.grantUser
        grantClient := by rw [moved.same]; exact stands.grantClient
        granted := stands.granted
        covered := by
          intro scope member
          rw [moved.same] at member
          exact stands.covered scope member
        family := by
          intro id named
          rw [moved.same] at named ⊢
          obtain ⟨family, inFamilies, isFamily, backs⟩ := stands.family id named
          have namesFamily : token.refreshFamilyID = some family.id := named.trans (by rw [isFamily])
          obtain ⟨last, inLast, lastID, familyMoved⟩ :=
            carries.families family inFamilies namesFamily
          refine ⟨last, inLast, lastID.trans isFamily,
            untouched.family last inLast (by rw [lastID]; exact namesFamily), ?_, ?_, ?_, ?_, ?_⟩
          all_goals rw [familyMoved.same]
          · exact backs.user
          · exact backs.client
          · exact backs.grant
          · exact backs.binding
          · exact backs.scopes }
  · have scopes : kept.scopes = token.scopes := by rw [moved.same]
    have clientID : (db.clientOf row').clientID = (issued.clientOf row).clientID := rowMoved.clientID
    rw [standingClaims, standingClaims, MintingService.accessClaims, MintingService.accessClaims,
      userMoved.subject, scopes, clientID]

/-- Right after its issue, nothing has happened to a token. -/
theorem Db.Stands.untouched {jti : RandomBytes 16} {issuedAt : Time} {user : User} {row : ClientRow}
    {grant : ConsentGrant} (issuedSound : issued.Sound)
    (stands : issued.Stands service sha jti issuedAt token user row grant) :
    issued.Untouched issued token where
  user other member isUser := by
    rw [issuedSound.users.unique member stands.inUsers (isUser.trans stands.userID.symm)]
    exact stands.userActive
  client other member isClient := by
    have active := stands.clientActive
    simp only [activeClient, Bool.and_eq_true, beq_iff_eq] at active
    rw [issuedSound.clients.unique member stands.inClients (isClient.trans stands.clientID.symm)]
    exact ⟨active.1.2, rfl⟩
  grant _ member _ := member
  family other member named := by
    obtain ⟨family, inFamilies, isFamily, backs⟩ := stands.family other.id named
    rw [issuedSound.families.unique member inFamilies isFamily.symm]
    exact backs.unrevoked
  access other member isToken := by
    rw [issuedSound.accesses.unique member stands.stored isToken]
    exact stands.unrevoked

/-- What UserInfo accepts has claims in range. -/
theorem dated_of_accepted {jti : RandomBytes 16} {issuedAt : Time} {user : User} {row : ClientRow}
    {grant : ConsentGrant} {entries : List Entry} (run : Run sha zone entries db)
    (seen : issued ∈ states entries db) (issuedSound : issued.Sound)
    (stands : issued.Stands service sha jti issuedAt token user row grant)
    (started : issuedAt ≤ now)
    (running : now.unix < (claimTime (issuedAt + service.accessTokenTTL)).toInt) {compact : String}
    (signed : service.signedClaims compact =
      some (standingClaims service issued jti issuedAt token user row))
    {info : UserInfo} (accepted : service.userInfoForAccessToken sha db compact now = .ok info) :
    service.Dated issuedAt := by
  obtain ⟨claims, authority, verified, isAuthority, isMatch, -⟩ := userInfo_ok.mp accepted
  obtain ⟨isSigned, valid⟩ := Option.filter_eq_some_iff.mp verified
  obtain rfl := Option.some.inj (isSigned.symm.trans signed)
  have read := accessAuthority_ok isAuthority
  -- the row is the one that was minted, whatever happened since
  have moved : AccessContinues token authority.metadata :=
    (run.accesses issued seen token stands.stored authority.metadata read.metadata
      (Or.inr (stands.digest.trans read.digest.symm))).2
  refine (dated_iff started running).mp ⟨(claimsValid_iff issuedSound stands).mp valid, ?_⟩
  unfold Service.accessAuthorityMatches at isMatch
  split at isMatch
  · cases isMatch
  · simp only [Bool.and_eq_true, Service.claimsMatch, beq_iff_eq, and_assoc] at isMatch
    obtain ⟨-, -, -, -, -, -, -, -, -, -, isIssued, isExpiry, -⟩ := isMatch
    rw [moved.same] at isIssued isExpiry
    rw [stands.issued, unix_timestamp] at isIssued
    rw [stands.expires, unix_timestamp] at isExpiry
    exact ⟨isIssued, isExpiry⟩

/-- Before `exp`, a token in range has not ended. -/
theorem unexpired_of_dated {jti : RandomBytes 16} {issuedAt : Time} {user : User} {row : ClientRow}
    {grant : ConsentGrant} (stands : issued.Stands service sha jti issuedAt token user row grant)
    (dated : service.Dated issuedAt)
    (running : now.unix < (claimTime (issuedAt + service.accessTokenTTL)).toInt) :
    (claimTime (issuedAt + service.accessTokenTTL)).toInt =
        (issuedAt + service.accessTokenTTL).unix ∧ now < token.expiresAt := by
  have later : issuedAt.unix ≤ (issuedAt + service.accessTokenTTL).unix := by
    have least := service.accessTokenTTL_valid.1
    simp only [minutes, seconds] at least
    simp only [Time.unix]
    lia
  have isExpiry := claimTime_toInt (t := issuedAt + service.accessTokenTTL)
    (by have := dated.1; lia) (by have := dated.2; lia)
  refine ⟨isExpiry, ?_⟩
  rw [isExpiry] at running
  rw [stands.expires]
  simp only [Time.unix, timestamp, microseconds] at running ⊢
  lia

/-- The lifetime that an access token advertises is honoured exactly while its family lasts, for
claims in range. -/
theorem lifetime_honoured_iff (run : Run sha zone (later ++ entry :: past) db)
    (isCall : entry.call = issuance.call sha service)
    (answered : entry.outcome = .ok (.tokens response))
    (inverse : ∀ claims, service.signer.signAccess claims = some response.accessToken →
      service.signedClaims response.accessToken = some claims)
    (stored : token ∈ entry.after.accessTokens) (isToken : token.id = issuance.accessTokenID)
    (untouched : entry.after.Untouched db token) (started : issuance.now ≤ now)
    (running : now.unix < (claimTime (issuance.now + service.accessTokenTTL)).toInt)
    (cutoffs : ∀ other ∈ later, ∀ cutoff ∈ other.call.cutoffs, cutoff ≤ now) :
    ((∃ info, service.userInfoForAccessToken sha db response.accessToken now = .ok info) ∧
      ∀ row ∈ db.clients, row.id = token.clientID → row.clientType = .typeConfidential →
        ∀ hint, ∃ answer,
          service.introspect sha db ⟨db.clientOf row, response.accessToken, hint, now⟩ =
            .ok answer ∧ answer.active ∧
          answer.expiresAt = (claimTime (issuance.now + service.accessTokenTTL)).toInt) ↔
      service.Dated issuance.now ∧ ∀ family ∈ db.refreshTokenFamilies,
        token.refreshFamilyID = some family.id → now < family.absoluteExpiresAt := by
  obtain ⟨_, begun, seen⟩ := run.split
  obtain ⟨minted, user, row, grant, stands, mintedID, signs⟩ := issuance.stands begun isCall answered
  have issuedSound := begun.sound
  have issuedRun := begun
  cases begun with
  | step before took _ _ =>
    obtain rfl : minted = token :=
      issuedSound.accesses.unique stands.stored stored (mintedID.trans isToken.symm)
    have signed := inverse _ signs
    -- with claims in range, the rows are still there
    have settled (dated : service.Dated issuance.now) := by
      have early : ∀ other ∈ later, ∀ cutoff ∈ other.call.cutoffs,
          timestamp cutoff < minted.expiresAt := fun other member cutoff listed =>
        ((timestamp_le cutoff).trans (cutoffs other member cutoff listed)).trans_lt
          (unexpired_of_dated stands dated running).2
      have carries := Run.carries issuedRun run stored early
      exact stands.carried issuedSound carries untouched
    constructor
    · rintro ⟨⟨info, accepted⟩, -⟩
      have dated := dated_of_accepted run (seen _ List.mem_cons_self) issuedSound stands started
        running signed accepted
      obtain ⟨kept, user', row', grant', standing, keptID, sameFamily, -, sameClaims⟩ :=
        settled dated
      rw [← sameClaims] at signed
      rw [← sameFamily]
      obtain ⟨claims, authority, verified, isAuthority, isMatch, -⟩ := userInfo_ok.mp accepted
      obtain ⟨isSigned, -⟩ := Option.filter_eq_some_iff.mp verified
      obtain rfl := Option.some.inj (isSigned.symm.trans signed)
      have digest : hashJTI sha (standingClaims service db issuance.jti issuance.now kept user'
          row').jwtID = kept.jtiHash := standing.digest.symm
      rw [digest] at isAuthority
      have snapped := accessAuthority_of_stands run.sound standing
        (by simpa [Time.isZero] using (accessAuthority_ok isAuthority).timed)
        (unexpired_of_dated standing dated running).2
      obtain rfl := Except.ok.inj (isAuthority.symm.trans snapped)
      exact (accepted_iff run.sound standing started running signed).mp
        ⟨verified, isAuthority, isMatch⟩
    · rintro ⟨dated, lasting⟩
      obtain ⟨kept, user', row', grant', standing, keptID, sameFamily, sameClient, sameClaims⟩ :=
        settled dated
      rw [← sameClaims] at signed
      rw [← sameFamily] at lasting
      obtain ⟨verified, isAuthority, accepted⟩ :=
        (accepted_iff run.sound standing started running signed).mpr ⟨dated, lasting⟩
      rw [standing.digest] at isAuthority
      refine ⟨⟨_, userInfo_ok.mpr ⟨_, _, verified, isAuthority, accepted, rfl⟩⟩, ?_⟩
      intro owner inClients isOwner confidential hint
      obtain rfl := run.sound.clients.unique inClients standing.inClients
        (isOwner.trans (sameClient.symm.trans standing.clientID.symm))
      have active := standing.clientActive
      simp only [activeClient, Bool.and_eq_true, beq_iff_eq] at active
      have reported : service.introspect sha db
          ⟨db.clientOf owner, response.accessToken, hint, now⟩ =
            .ok (service.accessResponse (snapshot db kept user' owner grant')) :=
        introspect_of_accepted run.sound confidential
          (basic_of_confidential run.sound inClients confidential) active.1.2 verified isAuthority
          accepted rfl rfl
      refine ⟨_, reported, rfl, ?_⟩
      have ends : kept.expiresAt.unix = (issuance.now + service.accessTokenTTL).unix := by
        rw [standing.expires, unix_timestamp]
      exact ends.trans (unexpired_of_dated standing dated running).1.symm

end Lifetime

namespace Sample

/-- A service that signs the claims of the exchanged access token only. -/
def faithful : MintingService :=
  { issuer with
    signer := ⟨fun _ => some "id", fun claims =>
      if service.jose.decodeClaims "" = some claims then some "a.b.c" else none⟩ }

def faithfulExchange : Entry := .calm sha (offlineExchange.call sha faithful) codeIssued.after

/-- The claims of an access token refreshed a minute before the end of a family of one day. -/
def lateClaims : AccessTokenClaims :=
  { issuer := "https://issuer.example", subject := user.subject
    audience := "https://issuer.example/oauth2/userinfo", clientID := client.clientID
    scope := "offline_access openid profile", issuedAt := 1664489560, expiresAt := 1664489860
    jwtID := jtiText 'Q' }

/-- A service whose families last one day, and that tells these claims from all others. -/
def dayService : MintingService :=
  { issuer with
    jose := { service.jose with decodeClaims := fun _ => some lateClaims }
    signer := ⟨fun _ => some "id", fun claims =>
      if claims = lateClaims then some "a.b.c" else some "other"⟩
    refreshTokenTTL := hours 24, refreshAbsoluteTTL := hours 24, refreshTTL_valid := by decide }

def dayExchange : Entry := .calm sha (offlineExchange.call sha dayService) codeIssued.after

/-- The refresh, a minute before the end of the family. -/
def lateRefresh : Issuance :=
  .refresh (presentation (at' (20 + 86400 - 60))) refreshEntropy dayExchange.after dayExchange.after

def lateRefreshed : Entry := .calm sha (lateRefresh.call sha dayService) dayExchange.after

theorem faithfulExchange_evaluated :
    faithfulExchange.outcome = .ok (.tokens offlineResponse) ∧
      Fresh (states flow codeIssued.after) codeIssued.after faithfulExchange.after ∧
      ∀ family ∈ faithfulExchange.after.refreshTokenFamilies, at' 30 < family.absoluteExpiresAt := by
  decide +kernel

def lateResponse : Response :=
  { accessToken := "a.b.c", tokenType := "Bearer", expiresIn := 300, idToken := ""
    refreshToken := refreshText 'E', scope := "offline_access openid profile" }

theorem lateRefreshed_evaluated :
    lateRefreshed.outcome = .ok (.tokens lateResponse) ∧
      Fresh (states flow codeIssued.after) codeIssued.after dayExchange.after ∧
      Fresh (states (dayExchange :: flow) dayExchange.after) dayExchange.after lateRefreshed.after ∧
      dayService.userInfoForAccessToken sha lateRefreshed.after "a.b.c" (at' (20 + 86400)) =
        .error .tokenInvalidToken := by
  decide +kernel

end Sample

/-- The exchanged access token is accepted. -/
theorem lifetime_honoured_sample :
    ∃ info, Sample.faithful.userInfoForAccessToken Sample.sha Sample.faithfulExchange.after "a.b.c"
      (Sample.at' 30) = .ok info := by
  obtain ⟨answered, fresh, lasting⟩ := Sample.faithfulExchange_evaluated
  have run : Run Sample.sha .utc ([] ++ Sample.faithfulExchange :: Sample.flow)
      Sample.faithfulExchange.after :=
    Sample.flow_run.calm _ (by simp [Sample.offlineExchange, Issuance.call, Call.reads]) fresh
  have inverse (claims : AccessTokenClaims)
      (signs : Sample.faithful.signer.signAccess claims = some Sample.offlineResponse.accessToken) :
      Sample.faithful.signedClaims Sample.offlineResponse.accessToken = some claims := by
    simp only [Sample.faithful] at signs
    split at signs
    · rename_i same
      exact Eq.trans (by decide +kernel) same
    · cases signs
  have isCall : Sample.faithfulExchange.call =
    Sample.offlineExchange.call Sample.sha Sample.faithful := rfl
  obtain ⟨token, user, row, grant, stands, isToken, -⟩ :=
    Sample.offlineExchange.stands run isCall answered
  have untouched := stands.untouched run.sound
  have started : Sample.offlineExchange.now ≤ Sample.at' 30 := by decide
  have running : (Sample.at' 30).unix <
      (claimTime (Sample.offlineExchange.now + Sample.faithful.accessTokenTTL)).toInt := by decide
  have dated : Sample.faithful.Dated Sample.offlineExchange.now := by
    unfold MintingService.Dated
    decide
  generalize Sample.faithfulExchange = entry at *
  have honoured := lifetime_honoured_iff run isCall answered inverse stands.stored isToken untouched
    started running (by simp)
  exact (honoured.mpr ⟨dated, fun family member _ => lasting family member⟩).1

/-- An access token that is refreshed a minute before the end of its family is not accepted for its
lifetime. -/
theorem late_refresh_rejected :
    let db := Sample.lateRefreshed.after
    let now := Sample.at' (20 + 86400)
    Run Sample.sha .utc (Sample.lateRefreshed :: Sample.dayExchange :: Sample.flow) db ∧
      Sample.lateRefreshed.call = Sample.lateRefresh.call Sample.sha Sample.dayService ∧
      Sample.lateRefreshed.outcome = .ok (.tokens Sample.lateResponse) ∧
      (∀ claims, Sample.dayService.signer.signAccess claims = some "a.b.c" →
        Sample.dayService.signedClaims "a.b.c" = some claims) ∧
      (∃ token ∈ db.accessTokens, token.id = Sample.lateRefresh.accessTokenID ∧
        db.Untouched db token) ∧
      Sample.lateRefresh.now ≤ now ∧
      now.unix < (claimTime (Sample.lateRefresh.now + Sample.dayService.accessTokenTTL)).toInt ∧
      Sample.dayService.userInfoForAccessToken Sample.sha db "a.b.c" now =
        .error .tokenInvalidToken := by
  obtain ⟨answered, exchangeFresh, refreshFresh, rejected⟩ := Sample.lateRefreshed_evaluated
  have exchanged : Run Sample.sha .utc (Sample.dayExchange :: Sample.flow)
      Sample.dayExchange.after :=
    Sample.flow_run.calm _ (by simp [Sample.offlineExchange, Issuance.call, Call.reads])
      exchangeFresh
  have run : Run Sample.sha .utc (Sample.lateRefreshed :: Sample.dayExchange :: Sample.flow)
      Sample.lateRefreshed.after :=
    exchanged.calm _ (by simp [Sample.lateRefresh, Issuance.call, Call.reads, states]) refreshFresh
  have isCall : Sample.lateRefreshed.call =
    Sample.lateRefresh.call Sample.sha Sample.dayService := rfl
  obtain ⟨token, user, row, grant, stands, isToken, -⟩ :=
    Sample.lateRefresh.stands run isCall answered
  refine ⟨run, isCall, answered, ?_, ⟨token, stands.stored, isToken, stands.untouched run.sound⟩,
    by decide, by decide, rejected⟩
  intro claims signs
  simp only [Sample.dayService] at signs
  split at signs
  · rename_i same
    rw [same]
    decide +kernel
  · exact absurd (Option.some.inj signs) (by decide)

end OneIssuer
