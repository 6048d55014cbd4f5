import OneIssuer.Minting
import OneIssuer.Token.Acceptance
import OneIssuer.Token.Mint

/-!
# Time zones

PostgreSQL adds whole days to an instant on the calendar of the session's time zone, while the token
service computes deadlines in hours. The only constraints that see the difference are the lifetime
CHECKs of families and generations. A transaction that commits in a session in UTC commits in
another zone exactly when the rows it leaves fit the caps of that zone (`commits_iff_fits`), and for
new refresh tokens this is a condition on the request time, the configured lifetimes and the zone
(`issuance_commits_iff`).

**What it does not establish.** How a zone resolves a wall-clock time that occurs twice or not at all:
`ZoneRules` leaves it open. All sessions of the database have one zone.
-/

set_option autoImplicit false

namespace OneIssuer

open Relational Token Store

/-! ## Zones -/

/-- The rules of a time zone: the offset from UTC in force at an instant, and the offset that belongs
to a wall-clock time. For a wall-clock time that occurs, the second one is in force at the instant it
leads to. -/
structure ZoneRules where
  offsetAt : Time → Int
  offsetOf : Time → Int
  resolves : ∀ instant, offsetAt (instant + offsetAt instant - offsetOf (instant + offsetAt instant)) =
    offsetOf (instant + offsetAt instant)

/-- `timestamptz + interval 'n days'`: the same wall-clock time `n` calendar days later. -/
def ZoneRules.zone (rules : ZoneRules) : Zone where
  plusDays instant days :=
    let wall := instant + rules.offsetAt instant + hours (24 * days)
    wall - rules.offsetOf wall

/-- The zone with caps that are never shorter than `n` times 24 hours. -/
def Zone.lenient (zone : Zone) : Zone :=
  ⟨fun instant days => max (zone.plusDays instant days) (instant + hours (24 * days))⟩

/-- The database with another time zone of its sessions. -/
def Db.inZone (db : Db) (zone : Zone) : Db := { db with zone }

/-- The lifetimes of all families and generations are within the caps of the zone. -/
structure Db.Fits (db : Db) (zone : Zone) : Prop where
  families : ∀ family ∈ db.refreshTokenFamilies,
    family.absoluteExpiresAt ≤ zone.plusDays family.createdAt 365
  generations : ∀ generation ∈ db.refreshTokens,
    generation.expiresAt ≤ zone.plusDays generation.issuedAt 30

theorem Db.Sound.fits {db : Db} (sound : db.Sound) : db.Fits db.zone where
  families family member := by
    have capped : (decide (family.createdAt < family.absoluteExpiresAt) &&
        decide (family.absoluteExpiresAt ≤ db.zone.plusDays family.createdAt 365) &&
        family.revokedAt.all fun t => family.createdAt ≤ t) = true :=
      sound.families.check member "refresh_token_families_lifetime_valid"
        (by simp [RefreshTokenFamily.checks])
    simp only [Bool.and_eq_true, decide_eq_true_eq] at capped
    exact capped.1.2
  generations generation member := by
    have capped : (decide (generation.issuedAt < generation.expiresAt) &&
        decide (generation.expiresAt ≤ db.zone.plusDays generation.issuedAt 30) &&
        generation.consumedAt.all fun t => generation.issuedAt ≤ t) = true :=
      sound.generations.check member "refresh_tokens_lifetime_valid" (by simp [RefreshToken.checks])
    simp only [Bool.and_eq_true, decide_eq_true_eq] at capped
    exact capped.1.2

/-! ## Statements -/

/-- The CHECKs of a family that fits hold in the zone when they hold in another one. -/
theorem familyChecks_inZone {row : RefreshTokenFamily} {zone other : Zone}
    (fits : row.absoluteExpiresAt ≤ other.plusDays row.createdAt 365)
    (valid : checkViolation (row.checks zone) = none) : checkViolation (row.checks other) = none := by
  simp only [checkViolation_eq_none, RefreshTokenFamily.checks, List.mem_cons, List.not_mem_nil,
    or_false, forall_eq_or_imp, forall_eq, Bool.and_eq_true, decide_eq_true_eq] at valid ⊢
  exact ⟨⟨⟨valid.1.1.1, fits⟩, valid.1.2⟩, valid.2⟩

theorem generationChecks_inZone {row : RefreshToken} {zone other : Zone}
    (fits : row.expiresAt ≤ other.plusDays row.issuedAt 30)
    (valid : checkViolation (row.checks zone) = none) : checkViolation (row.checks other) = none := by
  simp only [checkViolation_eq_none, RefreshToken.checks, List.mem_cons, List.not_mem_nil,
    or_false, forall_eq_or_imp, forall_eq, Bool.and_eq_true, decide_eq_true_eq] at valid ⊢
  exact ⟨valid.1, valid.2.1, ⟨valid.2.2.1.1, fits⟩, valid.2.2.2⟩

/-- A state of one zone is a state of every zone that its rows fit. -/
theorem Db.Sound.inZone {db : Db} {zone : Zone} (sound : db.Sound) (fits : db.Fits zone) :
    (db.inZone zone).Sound :=
  { sound with
    families := ⟨sound.families.distinct, fun row member =>
      familyChecks_inZone (fits.families row member) (sound.families.valid row member)⟩
    generations := ⟨sound.generations.distinct, fun row member =>
      generationChecks_inZone (fits.generations row member) (sound.generations.valid row member)⟩ }

theorem Db.Sound.lenient {db : Db} (sound : db.Sound) : (db.inZone db.zone.lenient).Sound :=
  sound.inZone
    ⟨fun row member => (sound.fits.families row member).trans (le_max_left _ _),
      fun row member => (sound.fits.generations row member).trans (le_max_left _ _)⟩

/-- One violation more or less does not matter when it does not occur. -/
theorem firstViolation_replace (before : List (Option PgError)) {after : List (Option PgError)}
    {old new : Option PgError} (replaced : old = none → new = none)
    (allowed : firstViolation (before ++ old :: after) = none) :
    firstViolation (before ++ new :: after) = none := by
  rw [firstViolation_eq_none] at allowed ⊢
  intro violation member
  rcases List.mem_append.mp member with inBefore | rest
  · exact allowed violation (List.mem_append_left _ inBefore)
  · rcases List.mem_cons.mp rest with rfl | inAfter
    · exact replaced (allowed old (by simp))
    · exact allowed violation (List.mem_append_right _ (List.mem_cons_of_mem _ inAfter))

theorem familyInsert_inZone {db : Db} {zone : Zone} {row : RefreshTokenFamily}
    (fits : row.absoluteExpiresAt ≤ zone.plusDays row.createdAt 365)
    (allowed : row.insertViolation db = none) : row.insertViolation (db.inZone zone) = none :=
  firstViolation_replace [_] (familyChecks_inZone fits) allowed

theorem generationInsert_inZone {db : Db} {zone : Zone} {row : RefreshToken}
    (fits : row.expiresAt ≤ zone.plusDays row.issuedAt 30)
    (allowed : row.insertViolation db = none) : row.insertViolation (db.inZone zone) = none :=
  firstViolation_replace [_] (generationChecks_inZone fits) allowed

/-- The statements of an exchange and of a refresh: reads that do not look at the zone, and writes
that delete nothing. -/
def Stmt.ZoneBlind {β : Type} : Stmt β → Prop
  | .read select => ∀ db zone, select (db.inZone zone) = select db
  | .newEventID | .users _ | .clients _ | .consentGrants _ | .authorizationCodes _
  | .refreshTokenFamilies _ | .refreshTokens _ | .accessTokens _ | .auditEvents _ => True
  | _ => False

section Tables

variable {ρ χ β : Type} {spec : TableSpec Db ρ χ PgError} {db after : Db} {zone : Zone}
  {rows : List ρ} {put : List ρ → Db} {statement : TableStmt ρ χ β} {answer : β}

/-- A statement on one table succeeds in the other zone when the constraints do. -/
theorem store_inZone (stored : store put (statement.exec spec db rows) = .ok (answer, after))
    (inserts : ∀ left, after = put left → ∀ row ∈ left, spec.insertViolation db row = none →
      spec.insertViolation (db.inZone zone) row = none)
    (updates : ∀ left, after = put left → ∀ change, ∀ row ∈ left,
      spec.updateViolation db change row = none →
        spec.updateViolation (db.inZone zone) change row = none) :
    store (fun rows => (put rows).inZone zone) (statement.exec spec (db.inZone zone) rows) =
      .ok (answer, after.inZone zone) := by
  obtain ⟨left, isOk, rfl⟩ := store_ok.mp stored
  exact store_ok.mpr ⟨left, TableStmt.exec_transfer isOk (inserts left rfl) (updates left rfl), rfl⟩

/-- A statement on one table that succeeds in both zones does the same. -/
theorem store_agree {put' : List ρ → Db} {other : β} {after' : Db}
    (across : ∀ rows, put' rows = (put rows).inZone zone)
    (stored : store put (statement.exec spec db rows) = .ok (answer, after))
    (stored' : store put' (statement.exec spec (db.inZone zone) rows) = .ok (other, after')) :
    other = answer ∧ after' = after.inZone zone := by
  obtain ⟨left, isOk, rfl⟩ := store_ok.mp stored
  obtain ⟨left', isOk', rfl⟩ := store_ok.mp stored'
  obtain ⟨rfl, rfl⟩ := TableStmt.exec_agree isOk isOk'
  exact ⟨rfl, across _⟩

end Tables

/-- A statement that succeeds and leaves rows that fit succeeds in the other zone. -/
theorem exec_succeeds {β : Type} {statement : Stmt β} {db after : Db} {answer : β} {zone : Zone}
    (blind : statement.ZoneBlind) (executed : exec statement db = .ok (answer, after))
    (fits : after.Fits zone) :
    exec statement (db.inZone zone) = .ok (answer, after.inZone zone) := by
  cases statement with
  | read select =>
    cases executed
    exact congrArg (fun value => Except.ok (value, db.inZone zone)) (blind db zone)
  | newEventID =>
    cases executed
    rfl
  | users s =>
    rw [exec] at executed ⊢
    refine store_inZone executed (fun _ _ _ _ allowed => allowed) ?_
    intro _ _ change _ _ allowed
    cases change <;> exact allowed
  | clients s | consentGrants s | authorizationCodes s | accessTokens s | auditEvents s =>
    rw [exec] at executed ⊢
    exact store_inZone executed (fun _ _ _ _ allowed => allowed) fun _ _ _ _ _ allowed => allowed
  | refreshTokenFamilies s =>
    rw [exec] at executed ⊢
    refine store_inZone executed ?_ ?_
    · rintro left rfl row member allowed
      exact familyInsert_inZone (fits.families row member) allowed
    · rintro left rfl change row member allowed
      exact familyChecks_inZone (fits.families row member) allowed
  | refreshTokens s =>
    rw [exec] at executed ⊢
    refine store_inZone executed ?_ ?_
    · rintro left rfl row member allowed
      exact generationInsert_inZone (fits.generations row member) allowed
    · rintro left rfl change row member allowed
      exact generationChecks_inZone (fits.generations row member) allowed
  | _ => cases blind

/-- A statement that succeeds in both zones answers and leaves the same. -/
theorem exec_agree {β : Type} {statement : Stmt β} {db after after' : Db} {answer other : β}
    {zone : Zone} (blind : statement.ZoneBlind) (executed : exec statement db = .ok (answer, after))
    (executed' : exec statement (db.inZone zone) = .ok (other, after')) :
    other = answer ∧ after' = after.inZone zone := by
  cases statement with
  | read select =>
    cases executed
    cases executed'
    exact ⟨blind db zone, rfl⟩
  | newEventID =>
    cases executed
    cases executed'
    exact ⟨rfl, rfl⟩
  | users s | clients s | consentGrants s | authorizationCodes s | refreshTokenFamilies s
  | refreshTokens s | accessTokens s | auditEvents s =>
    rw [exec] at executed executed'
    exact store_agree (fun _ => rfl) executed executed'
  | _ => cases blind

/-- What is left fits only if what was there did. -/
theorem exec_fits_back {β : Type} {statement : Stmt β} {db after : Db} {answer : β} {zone : Zone}
    (blind : statement.ZoneBlind) (executed : exec statement db = .ok (answer, after))
    (fits : after.Fits zone) : db.Fits zone := by
  cases statement with
  | read select | newEventID =>
    cases executed
    exact fits
  | refreshTokenFamilies s =>
    rw [exec] at executed
    obtain ⟨rows, ran, rfl⟩ := store_ok.mp executed
    refine ⟨TableStmt.exec_forall_back ?_ ran fits.families, fits.generations⟩
    rintro ⟨⟩ row kept
    exact kept
  | refreshTokens s =>
    rw [exec] at executed
    obtain ⟨rows, ran, rfl⟩ := store_ok.mp executed
    refine ⟨fits.families, TableStmt.exec_forall_back ?_ ran fits.generations⟩
    rintro ⟨⟩ row kept
    exact kept
  | users s | clients s | consentGrants s | authorizationCodes s | accessTokens s | auditEvents s =>
    rw [exec] at executed
    obtain ⟨rows, -, rfl⟩ := store_ok.mp executed
    exact ⟨fits.families, fits.generations⟩
  | _ => cases blind

/-! ## Transactions -/

/-- A body that does not look at the zone. -/
def Store.ZoneBlind {α : Type} (body : Tx α) : Prop :=
  body.Only fun _ statement => statement.ZoneBlind

section Bodies

variable {α : Type} {body : Tx α} {db after : Db} {value : α} {other : Zone}

/-- A body that commits in two zones answers and leaves the same. -/
theorem commits_same (blind : ZoneBlind body)
    (ran : body.run exec (db.inZone other) = .ok (value, after)) {outcome : α × Db}
    (committed : body.run exec db = .ok outcome) : outcome = (value, after.inZone db.zone) := by
  have agree : ∀ ⦃β : Type⦄ (statement : Stmt β) (s : Db) (answer answer' : β) (s' t : Db),
      statement.ZoneBlind → exec statement s = .ok (answer, s') →
      exec statement (s.inZone db.zone) = .ok (answer', t) → answer' = answer ∧ t = s'.inZone db.zone :=
    fun _ _ _ _ _ _ _ blind executed executed' => exec_agree blind executed executed'
  obtain ⟨answer, left⟩ := outcome
  obtain ⟨rfl, rfl⟩ := Program.run_agree agree blind ran committed
  rfl

/-- A body that commits in one zone commits in another exactly when the rows it leaves fit. -/
theorem commits_iff_fits (blind : ZoneBlind body)
    (sound : db.Sound) (ran : body.run exec (db.inZone other) = .ok (value, after)) :
    (∃ outcome, body.run exec db = .ok outcome) ↔ after.Fits db.zone := by
  constructor
  · rintro ⟨outcome, committed⟩
    rw [commits_same blind ran committed] at committed
    have fits := (run_sound sound committed).fits
    exact ⟨fits.families, fits.generations⟩
  · intro fits
    have back : ∀ ⦃β : Type⦄ (statement : Stmt β) (s : Db) (answer : β) (s' : Db),
        statement.ZoneBlind → exec statement s = .ok (answer, s') → s'.Fits db.zone →
        s.Fits db.zone := fun _ _ _ _ _ blind executed => exec_fits_back blind executed
    have succeeds : ∀ ⦃β : Type⦄ (statement : Stmt β) (s : Db) (answer : β) (s' : Db),
        statement.ZoneBlind → exec statement s = .ok (answer, s') → s'.Fits db.zone →
        exec statement (s.inZone db.zone) = .ok (answer, s'.inZone db.zone) :=
      fun _ _ _ _ _ blind executed => exec_succeeds blind executed
    have committed := Program.run_transfer back succeeds blind ran fits
    exact ⟨_, committed⟩

end Bodies

/-! ## Exchange and refresh -/

namespace Store

namespace ZoneBlind

variable {α β ρ : Type} {operation : String}

theorem bind {first : Tx α} {rest : α → Tx β} (reached : ZoneBlind first)
    (continued : ∀ value, ZoneBlind (rest value)) : ZoneBlind (first >>= rest) :=
  Program.Only.bind reached continued

theorem pure (value : α) : ZoneBlind (Pure.pure value) := Program.only_pure value

theorem require (condition : Bool) (error : StoreError) :
    ZoneBlind (Program.require condition error) := Program.only_require condition error

theorem need (row : Option α) (error : StoreError) : ZoneBlind (Program.need row error) :=
  Program.only_need row error

theorem ofExcept (outcome : Except StoreError α) : ZoneBlind (Program.ofExcept outcome) :=
  Program.only_ofExcept outcome

theorem ite {condition : Prop} [Decidable condition] {yes no : Tx α} (left : ZoneBlind yes)
    (right : ZoneBlind no) : ZoneBlind (if condition then yes else no) :=
  Program.only_ite.mpr ⟨fun _ => left, fun _ => right⟩

theorem query {statement : Stmt β} (blind : statement.ZoneBlind) :
    ZoneBlind (Tx.query operation statement) := (Program.only_call _ _).mpr blind

theorem queryRow {absent : StoreError} {statement : Stmt (List ρ)} (blind : statement.ZoneBlind) :
    ZoneBlind (Tx.queryRow operation absent statement) :=
  .bind (.bind (.query blind) fun _ => .pure _) fun _ => .need _ _

theorem insertProtocolAudit (type : Audit.EventType) (result : Audit.Result) (actor : Uuid)
    (targetType : Audit.TargetType) (target : Uuid) (requestID : Audit.RequestID)
    (changed : List String) (now : Time) :
    ZoneBlind (insertProtocolAudit type result actor targetType target requestID changed now) :=
  .bind (.query trivial) fun _ => .bind (.require _ _) fun _ =>
    .bind (.require _ _) fun _ => .query trivial

theorem lockClient (absent : StoreError) (id : Uuid) :
    ZoneBlind (lockClient operation absent id) :=
  .bind (.queryRow trivial) fun _ => .bind (.query fun _ _ => rfl) fun _ =>
    .bind (.query fun _ _ => rfl) fun _ => .bind (.query fun _ _ => rfl) fun _ =>
    .pure _

end ZoneBlind

theorem exchangeAuthorizationCode_blind (sha : Sha256) (input : ExchangeInput) (mint : MintFunc) :
    ZoneBlind (exchangeAuthorizationCode sha input mint) := by
  unfold exchangeAuthorizationCode
  refine .bind (.require _ _) fun _ => .bind (.queryRow trivial) fun code =>
    .ite (.bind ?_ fun _ => .pure _) (.bind ?_ fun locked => .bind ?_ fun _ =>
      .bind (.query trivial) fun _ => .bind (.queryRow trivial) fun _ => .bind ?_ fun _ => .pure _)
  · unfold recordReplay
    exact .bind (.query fun _ _ => rfl) fun _ =>
      .ite (.pure _) (.insertProtocolAudit ..)
  · unfold lockExchangeAuthority
    exact .bind (.require _ _) fun _ => .bind (.require _ _) fun _ =>
      .bind (.queryRow trivial) fun _ => .bind (.require _ _) fun _ =>
      .bind (.lockClient ..) fun _ => .bind (.require _ _) fun _ =>
      .bind (.need _ _) fun _ => .bind (.require _ _) fun _ =>
      .bind (.queryRow trivial) fun _ => .bind (.require _ _) fun _ =>
      .bind (.ofExcept _) fun _ => .bind (.require _ _) fun _ =>
      .pure _
  · unfold createInitialRefresh
    cases locked.minted.initialRefresh with
    | none => exact .pure _
    | some initial =>
      exact .bind (.need _ _) fun _ => .bind (.query trivial) fun _ => .query trivial
  · unfold auditExchange
    refine .bind (.insertProtocolAudit ..) fun _ => .bind (.insertProtocolAudit ..) fun _ => ?_
    cases locked.minted.initialRefresh with
    | none => exact .pure _
    | some initial => exact .insertProtocolAudit ..

theorem exchangeRefreshToken_blind (sha : Sha256) (input : RefreshInput) (mint : RefreshMintFunc)
    (candidate : RefreshToken) (candidateFamily : RefreshTokenFamily) :
    ZoneBlind (exchangeRefreshToken sha input mint candidate candidateFamily) := by
  unfold exchangeRefreshToken
  refine .bind (.require _ _) fun _ => .bind ?_ fun locked =>
    .ite (.bind ?_ fun _ => .pure _) (.bind ?_ fun _ => .pure _)
  · unfold lockRefreshAuthority
    exact .bind (.queryRow trivial) fun _ => .bind (.require _ _) fun _ =>
      .bind (.lockClient ..) fun _ => .bind (.require _ _) fun _ =>
      .bind (.queryRow trivial) fun _ => .bind (.require _ _) fun _ =>
      .bind (.queryRow trivial) fun _ => .bind (.require _ _) fun _ =>
      .bind (.queryRow trivial) fun _ => .bind (.require _ _) fun _ =>
      .pure _
  · unfold revokeReusedFamily
    exact .bind (.queryRow trivial) fun _ => .bind (.query trivial) fun _ =>
      .bind (.insertProtocolAudit ..) fun _ => .insertProtocolAudit ..
  · unfold rotateGeneration
    exact .bind (.require _ _) fun _ => .bind (.ofExcept _) fun _ =>
      .bind (.ofExcept _) fun _ => .bind (.require _ _) fun _ =>
      .bind (.queryRow trivial) fun _ => .bind (.query trivial) fun _ => .bind (.query trivial)
      fun _ => .bind (.insertProtocolAudit ..) fun _ => .bind (.insertProtocolAudit ..) fun _ =>
      .pure _

end Store

/-! ## Issuance -/

section Issuance

variable {sha : Sha256} {db : Db} {service : MintingService}

/-- A request for tokens, with the random values of its callback. -/
inductive Issuance where
  | exchange (input : ExchangeInput) (entropy : ExchangeEntropy)
  | refresh (input : RefreshInput) (entropy : RefreshEntropy) (seenGeneration seenFamily : Db)

/-- The call the service makes for a request. -/
def Issuance.call (sha : Sha256) (service : MintingService) : Issuance → Call
  | .exchange input entropy => .exchangeAuthorizationCode input (service.mint sha entropy)
  | .refresh input entropy seenGeneration seenFamily =>
    .exchangeRefreshToken input (service.mintRefresh sha entropy) seenGeneration seenFamily

/-- The configured lifetimes, as the columns keep them, are within the caps of the zone at the time
of the request. -/
def Issuance.Fits (service : MintingService) (db : Db) : Issuance → Prop
  | .exchange input _ =>
    timestamp (input.now + service.refreshAbsoluteTTL) ≤ db.zone.plusDays (timestamp input.now) 365 ∧
      timestamp (input.now + service.refreshTokenTTL) ≤ db.zone.plusDays (timestamp input.now) 30
  | .refresh input _ _ _ =>
    ∀ generation ∈ db.refreshTokens, generation.tokenHash = input.tokenHash →
      ∀ family ∈ db.refreshTokenFamilies, family.id = generation.familyID →
        timestamp (min (input.now + service.refreshTokenTTL) family.absoluteExpiresAt) ≤
          db.zone.plusDays (timestamp input.now) 30

instance (service : MintingService) (db : Db) : (issuance : Issuance) →
    Decidable (issuance.Fits service db)
  | .exchange _ _ => inferInstanceAs (Decidable (_ ∧ _))
  | .refresh input _ _ _ => inferInstanceAs (Decidable (∀ generation ∈ db.refreshTokens,
      generation.tokenHash = input.tokenHash → ∀ family ∈ db.refreshTokenFamilies,
        family.id = generation.familyID → timestamp (min (input.now + service.refreshTokenTTL)
          family.absoluteExpiresAt) ≤ db.zone.plusDays (timestamp input.now) 30))

theorem Issuance.blind (issuance : Issuance) : ZoneBlind ((issuance.call sha service).body sha) := by
  cases issuance with
  | exchange input entropy =>
    exact .bind (exchangeAuthorizationCode_blind ..) fun _ => .pure _
  | refresh input entropy seenGeneration seenFamily =>
    refine .bind ?_ fun _ => .pure _
    unfold refreshByHash
    split
    · exact Program.only_fail _
    · exact exchangeRefreshToken_blind ..

/-- What a call answers alone. -/
theorem Entry.calm_ok {call : Call} {answer : Answer} :
    (Entry.calm sha call db).outcome = .ok answer ↔
      ∃ after, (call.body sha).run exec db = .ok (.ok answer, after) := by
  constructor
  · intro answered
    exact ⟨_, (Entry.calm_ran sha call db).of_ok answered⟩
  · rintro ⟨after, ran⟩
    simp only [Entry.calm, seenByCaller, inTx_calm_ok.mpr ran]
    rfl

/-- The rows of an offline exchange fit when the new ones do. -/
theorem exchange_fits_iff (sound : db.Sound) {other : Zone} (elsewhere : (db.inZone other).Sound)
    {input : ExchangeInput} {entropy : ExchangeEntropy} {response : Response} {after : Db}
    (ran : ((Call.exchangeAuthorizationCode input (service.mint sha entropy)).body sha).run exec
      (db.inZone other) = .ok (.ok (.tokens response), after))
    (offline : response.refreshToken ≠ "") :
    after.Fits db.zone ↔ (Issuance.exchange input entropy).Fits service db := by
  obtain ⟨result, ended, same⟩ := exchange_ran elsewhere ran
  cases ended with
  | replayed => cases same
  | @exchanged code locked _ _ _ _ locks bound =>
    cases same
    cases isInitial : locked.minted.initialRefresh with
    | none =>
      simp only [exchangeResponse, isInitial] at offline
      exact absurd rfl offline
    | some initial =>
      obtain ⟨binding, isBinding⟩ := Option.isSome_iff_exists.mp (bound initial isInitial)
      obtain ⟨user, -, -, row, -, -, isMinted⟩ := locks.minted
      obtain ⟨scopes, -, -, -, issuedAt, -, deadlines⟩ := mint_ok isMinted
      obtain ⟨rolling, absolute⟩ := deadlines initial isInitial
      simp only [exchangedAuthority] at issuedAt rolling absolute
      have isFamily : (initialFamily code locked binding initial).createdAt = timestamp input.now ∧
          (initialFamily code locked binding initial).absoluteExpiresAt =
            timestamp (input.now + service.refreshAbsoluteTTL) := by
        simp only [initialFamily, issuedAt, absolute, and_self]
      have isGeneration : (initialGeneration locked initial).issuedAt = timestamp input.now ∧
          (initialGeneration locked initial).expiresAt =
            timestamp (input.now + service.refreshTokenTTL) := by
        simp only [initialGeneration, issuedAt, rolling, and_self]
      have rows : initialRows code locked =
          ([initialFamily code locked binding initial], [initialGeneration locked initial]) := by
        simp only [initialRows, isInitial, isBinding]
      constructor
      · intro fits
        have newFamily := fits.families (initialFamily code locked binding initial)
          (by simp [founded, rows])
        have newGeneration := fits.generations (initialGeneration locked initial)
          (by simp [founded, rows])
        rw [isFamily.1, isFamily.2] at newFamily
        rw [isGeneration.1, isGeneration.2] at newGeneration
        exact ⟨newFamily, newGeneration⟩
      · rintro ⟨newFamily, newGeneration⟩
        rw [← isFamily.1, ← isFamily.2] at newFamily
        rw [← isGeneration.1, ← isGeneration.2] at newGeneration
        constructor
        · intro family member
          simp only [founded, rows, List.mem_append, List.mem_singleton] at member
          rcases member with old | rfl
          · exact sound.fits.families family old
          · exact newFamily
        · intro generation member
          simp only [founded, rows, List.mem_append, List.mem_singleton] at member
          rcases member with old | rfl
          · exact sound.fits.generations generation old
          · exact newGeneration

/-- The rows of a refresh fit when the new generation does. -/
theorem refresh_fits_iff (sound : db.Sound) {other : Zone} (elsewhere : (db.inZone other).Sound)
    {input : RefreshInput} {entropy : RefreshEntropy} {seenGeneration seenFamily : Db}
    {response : Response} {after : Db}
    (ran : ((Call.exchangeRefreshToken input (service.mintRefresh sha entropy) seenGeneration
      seenFamily).body sha).run exec (db.inZone other) = .ok (.ok (.tokens response), after)) :
    after.Fits db.zone ↔
      (Issuance.refresh input entropy seenGeneration seenFamily).Fits service db := by
  obtain ⟨candidate, candidateFamily, result, -, ended, same⟩ := refresh_ran elsewhere ran
  cases ended with
  | reused => cases same
  | @rotated locked scopes minted _ locks unconsumed _ _ _ _ _ isMinted =>
    obtain ⟨_, accessToken, -, -, -, -, isNew⟩ := mintRefresh_ok.mp isMinted
    have isGeneration : (replacementGeneration locked minted).issuedAt = timestamp input.now ∧
        (replacementGeneration locked minted).expiresAt =
          timestamp (min (input.now + service.refreshTokenTTL) locked.family.absoluteExpiresAt) := by
      simp only [replacementGeneration, isNew, refreshedAuthority, and_self]
    constructor
    · intro fits generation stored hasHash family inFamilies isFamily
      obtain rfl : generation = locked.presented :=
        eq_of_key sound.tokenHashes stored locks.presented (hasHash.trans locks.presentedHash.symm)
      obtain rfl : family = locked.family :=
        sound.families.unique inFamilies locks.family (isFamily.trans locks.presentedFamily)
      have newGeneration := fits.generations (replacementGeneration locked minted)
        (List.mem_append_right _ (List.mem_singleton_self _))
      rw [isGeneration.1, isGeneration.2] at newGeneration
      exact newGeneration
    · intro fitting
      refine ⟨sound.fits.families, ?_⟩
      intro generation member
      rcases List.mem_append.mp member with kept | new
      · obtain ⟨old, stored, isOld⟩ := mem_updateRows.mp kept
        have fits := sound.fits.generations old stored
        subst isOld
        split
        · exact fits
        · exact fits
      · rw [List.mem_singleton.mp new, isGeneration.1, isGeneration.2]
        exact fitting locked.presented locks.presented locks.presentedHash locked.family locks.family
          locks.presentedFamily.symm

/-- A request for refresh tokens that succeeds when the caps are long enough succeeds in the zone of
the session exactly when the configured lifetimes fit there. -/
theorem issuance_commits_iff (sound : db.Sound) (issuance : Issuance) {response : Response}
    (otherwise : (Entry.calm sha (issuance.call sha service) (db.inZone db.zone.lenient)).outcome =
      .ok (.tokens response)) (offline : response.refreshToken ≠ "") :
    (Entry.calm sha (issuance.call sha service) db).outcome = .ok (.tokens response) ↔
      issuance.Fits service db := by
  obtain ⟨after, ran⟩ := Entry.calm_ok.mp otherwise
  have fitting : after.Fits db.zone ↔ issuance.Fits service db := by
    cases issuance with
    | exchange input entropy => exact exchange_fits_iff sound sound.lenient ran offline
    | refresh input entropy seenGeneration seenFamily => exact refresh_fits_iff sound sound.lenient ran
  rw [Entry.calm_ok, ← fitting, ← commits_iff_fits issuance.blind sound ran]
  constructor
  · rintro ⟨left, committed⟩
    exact ⟨_, committed⟩
  · rintro ⟨outcome, committed⟩
    rw [commits_same issuance.blind ran committed] at committed
    exact ⟨_, committed⟩

end Issuance

namespace Sample

/-- A service with the default refresh lifetimes that signs everything. -/
def issuer : MintingService :=
  { service with
    signer := ⟨fun _ => some "id", fun _ => some "a.b.c"⟩, idTokenTTL := minutes 5
    accessTokenTTL := minutes 5, refreshTokenTTL := defaultRefreshTTL
    refreshAbsoluteTTL := defaultAbsoluteTTL, audience := by decide, idTokenTTL_valid := by decide
    accessTokenTTL_valid := by decide, clockSkew_valid := by decide
    refreshTTL_valid := defaultLifetimes_valid }

/-- The same service with generations that live an hour less. -/
def briefIssuer : MintingService :=
  { issuer with refreshTokenTTL := defaultRefreshTTL - hours 1, refreshTTL_valid := by decide }

def exchangeEntropy : ExchangeEntropy :=
  { jti := ⟨List.replicate 16 0, rfl⟩, accessTokenID := ⟨9, by decide⟩
    refreshToken := ⟨List.replicate 32 0, rfl⟩, familyID := ⟨10, by decide⟩
    refreshID := ⟨11, by decide⟩ }

/-- The exchange of the issued code. -/
def offlineExchange : Issuance := .exchange (codeInput (at' 20)) exchangeEntropy

def offlineResponse : Response :=
  { accessToken := "a.b.c", tokenType := "Bearer", expiresIn := 300, idToken := "id"
    refreshToken := refreshText 'A', scope := "offline_access openid profile" }

/-- Five hours behind UTC, and four from the tenth day on. -/
def springForward : ZoneRules where
  offsetAt instant := if instant < at' 864000 then hours (-5) else hours (-4)
  offsetOf wall := if wall < at' 864000 + hours (-5) then hours (-5) else hours (-4)
  resolves instant := by
    by_cases before : instant < at' 864000
    · have wall : instant + hours (-5) < at' 864000 + hours (-5) := by lia
      simp only [before, wall, if_true]
      have back : instant + hours (-5) - hours (-5) < at' 864000 := by lia
      simp only [back, if_true]
    · have wall : ¬ instant + hours (-4) < at' 864000 + hours (-5) := by
        have shift : hours (-5) ≤ hours (-4) := by decide
        lia
      simp only [before, wall, if_false]
      have back : ¬ instant + hours (-4) - hours (-4) < at' 864000 := by lia
      simp only [back, if_false]

end Sample

/-- With generations that live an hour less than thirty days the exchange commits although the clocks go
forward in between. -/
theorem issuance_commits_sample :
    (Entry.calm Sample.sha (Sample.offlineExchange.call Sample.sha Sample.briefIssuer)
      (Sample.codeIssued.after.inZone Sample.springForward.zone)).outcome =
        .ok (.tokens Sample.offlineResponse) :=
  have fits : Sample.codeIssued.after.Fits Sample.springForward.zone :=
    ⟨by decide +kernel, by decide +kernel⟩
  (issuance_commits_iff (Sample.flow_run.sound.inZone fits) Sample.offlineExchange (by decide +kernel)
    (by decide)).mpr (by decide +kernel)

/-- Clocks that go forward within thirty days make an offline exchange fail. -/
theorem offline_exchange_fails :
    let db := Sample.codeIssued.after.inZone Sample.springForward.zone
    let call := Sample.offlineExchange.call Sample.sha Sample.issuer
    db.Sound ∧ (Entry.calm Sample.sha call (db.inZone .utc)).outcome =
        .ok (.tokens Sample.offlineResponse) ∧
      (Entry.calm Sample.sha call db).outcome = .error
        (.query "create initial refresh token" ⟨.checkViolation, "refresh_tokens_lifetime_valid"⟩) := by
  refine ⟨Sample.flow_run.sound.inZone ⟨?_, ?_⟩, ?_⟩
  · decide +kernel
  · decide +kernel
  · decide +kernel

end OneIssuer
