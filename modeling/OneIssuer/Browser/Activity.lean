import OneIssuer.Browser.Environment
import OneIssuer.Calls

/-!
# Active and idle sessions

`Authenticate` moves the idle deadline of a session, but only when five minutes have passed since it
last did. A session that is used at least every half of the idle timeout therefore stays alive until its
absolute expiry if the idle timeout is at least ten minutes: a use within the first five minutes leaves
the deadline where it was, and the next one still comes before it. With a shorter idle timeout it may
come too late.

An idle session dies in any case: a deadline is never later than the idle timeout after a use.

`sessions_follow_activity` follows the visits of one session, and lets store calls that leave its
deadlines alone run between them.

**What it does not establish.** That the clock of the server moves forward, which `Spaced` assumes.
-/

set_option autoImplicit false

namespace OneIssuer.Browser

open Relational Store Token

/-! ## Requests that run alone -/

/-- What one effect does when nothing else runs and nothing fails; the first component counts the
effects for the random source. -/
def alone (sha : Sha256) (environment : Environment) :
    ⦃γ : Type⦄ → Effect γ → Nat × Db → Except Empty (γ × (Nat × Db))
  | _, .randomBytes, (tick, db) => .ok (environment.bytes tick, (tick + 1, db))
  | _, .randomUuid, (tick, db) => .ok (environment.uuid tick, (tick + 1, db))
  | _, .query read, (tick, db) => .ok (some (read db), (tick + 1, db))
  | _, .call call, (tick, db) =>
    .ok ((Entry.calm sha call db).outcome, (tick + 1, (Entry.calm sha call db).after))
  | _, .checkPassword _ _, (tick, db) => .ok (environment.check, (tick + 1, db))
  | _, .hashPassword _, (tick, db) => .ok (environment.hash, (tick + 1, db))

section Sessions

variable {app : Application} {environment : Environment} {token : String} {now : Time} {db after : Db}
  {tick : Nat} {left : Nat × Db}

/-- The run of a body that runs alone. -/
def runAlone {α : Type} (app : Application) (environment : Environment) (body : Handler α)
    (s : Nat × Db) : α × (Nat × Db) :=
  match body.run (alone app.sha environment) s with
  | .ok ended => ended

theorem runAlone_ok {α : Type} (app : Application) (environment : Environment) (body : Handler α)
    (s : Nat × Db) :
    body.run (alone app.sha environment) s = .ok (runAlone app environment body s) := by
  unfold runAlone
  cases body.run (alone app.sha environment) s with
  | ok ended => rfl
  | error failure => exact nomatch failure

theorem run_perform {γ : Type} {effect : Effect γ} {s : Nat × Db} :
    (perform effect).run (alone app.sha environment) s = alone app.sha environment effect s := by
  unfold perform Program.call
  rw [Program.run_ask]
  cases alone app.sha environment effect s with
  | ok answered => rfl
  | error failure => exact nomatch failure

/-- How `Authenticate` ends when it runs alone. -/
inductive Authenticated (app : Application) (token : String) (now : Time) (db : Db) :
    Except SessionError Principal → Db → Prop where
  | refused (error : SessionError)
      (unusable : ∀ principal, validToken token "s1_" = true →
        findLoginSession db (hashSessionToken app token) = some principal →
        principal.usable now = false) :
      Authenticated app token now db (.error error) db
  | kept {principal : Principal} (found : findLoginSession db (hashSessionToken app token) = some principal)
      (usable : principal.usable now = true) (recent : now - principal.lastSeenAt < minutes 5) :
      Authenticated app token now db (.ok principal) db
  | touched {principal : Principal}
      (found : findLoginSession db (hashSessionToken app token) = some principal)
      (usable : principal.usable now = true) (old : minutes 5 ≤ now - principal.lastSeenAt) {entry : Entry}
      (isCall : entry = Entry.calm app.sha (.touchLoginSession principal.sessionID now
        (nextIdleExpiry app now principal.expiresAt)) db)
      {result : Except SessionError Principal}
      (answered : result.isOk = entry.outcome.isOk) :
      Authenticated app token now db result entry.after

theorem authenticate_alone {result : Except SessionError Principal}
    (ran : (authenticate app token now).run (alone app.sha environment) (tick, db) = .ok (result, left)) :
    Authenticated app token now db result left.2 := by
  unfold authenticate at ran
  split at ran
  · rename_i invalid
    obtain ⟨rfl, rfl⟩ := Prod.mk.inj (Except.ok.inj ran)
    refine .refused _ fun principal valid => ?_
    rw [valid] at invalid
    exact absurd invalid (by decide)
  · rename_i valid
    simp only [Program.run_bind_ok, run_perform, alone, Except.ok.injEq, Prod.mk.injEq] at ran
    obtain ⟨found, s, ⟨rfl, rfl⟩, ran⟩ := ran
    cases isFound : findLoginSession db (hashSessionToken app token) with
    | none =>
      simp only [isFound, Program.run_pure_ok, Prod.mk.injEq] at ran
      obtain ⟨rfl, rfl⟩ := ran
      exact .refused _ fun principal _ found => absurd (isFound.symm.trans found) (by simp)
    | some principal =>
      simp only [isFound] at ran
      split at ran
      · rename_i usable
        unfold touch at ran
        split at ran
        · rename_i old
          simp only [Program.run_bind_ok, run_perform, alone, Except.ok.injEq, Prod.mk.injEq] at ran
          obtain ⟨answer, s, ⟨rfl, rfl⟩, ran⟩ := ran
          cases answered : (Entry.calm app.sha (.touchLoginSession principal.sessionID now
              (nextIdleExpiry app now principal.expiresAt)) db).outcome with
          | error failure =>
            simp only [answered, Program.run_pure_ok, Prod.mk.injEq] at ran
            obtain ⟨rfl, rfl⟩ := ran
            exact .touched isFound usable old rfl (by rw [answered]; rfl)
          | ok answer =>
            simp only [answered, Program.run_pure_ok, Prod.mk.injEq] at ran
            obtain ⟨rfl, rfl⟩ := ran
            exact .touched isFound usable old rfl (by rw [answered]; rfl)
        · rename_i recent
          obtain ⟨rfl, rfl⟩ := Prod.mk.inj (Except.ok.inj ran)
          exact .kept isFound usable (Int.not_le.mp recent)
      · rename_i unusable
        obtain ⟨rfl, rfl⟩ := Prod.mk.inj (Except.ok.inj ran)
        refine .refused _ fun other _ found => ?_
        cases isFound.symm.trans found
        simpa using unusable

theorem findLoginSession_some {hash : Bytes} {principal : Principal}
    (found : findLoginSession db hash = some principal) :
    ∃ row ∈ db.loginSessions, row.tokenHash = hash ∧ ∃ user, principal = mapPrincipal row user := by
  obtain ⟨row, isRow, rest⟩ := Option.bind_eq_some_iff.mp found
  obtain ⟨user, -, rfl⟩ := Option.map_eq_some_iff.mp rest
  exact ⟨row, List.mem_of_find?_eq_some isRow, by simpa using List.find?_some isRow, user, rfl⟩

/-! ## What a touch does -/

/-- A row after a touch. -/
def touchedRow (now idle : Time) (row : LoginSession) : LoginSession :=
  { row with
    lastSeenAt := timestamp now
    idleExpiresAt := min row.expiresAt (timestamp idle) }

theorem touchLoginSession_ok {id : Uuid} {idle : Time} {outcome : Except StoreError Answer} :
    ((Call.touchLoginSession id now idle).body app.sha).run exec db = .ok (outcome, after) ↔
      outcome = .ok .done ∧
        (∀ row ∈ db.loginSessions,
          SessionChange.guard (.touch (timestamp now) (timestamp idle)) row && row.id == id →
          checkViolation (touchedRow now idle row).checks = none) ∧
        after = { db with
          loginSessions := updateRows
            (fun row =>
              SessionChange.guard (.touch (timestamp now) (timestamp idle)) row && row.id == id)
            (touchedRow now idle) db.loginSessions } := by
  rw [Call.body, quietly_ok]
  simp only [Store.touchLoginSession, Program.run_bind_ok, Program.run_pure_ok, Tx.query_ok,
    Prod.mk.injEq]
  constructor
  · rintro ⟨⟨value, rows, s, executed, -, rfl⟩, rfl⟩
    obtain ⟨allowed, -, rfl⟩ := (query_update exec_update_loginSessions).mp executed
    exact ⟨rfl, allowed, rfl⟩
  · rintro ⟨rfl, allowed, rfl⟩
    exact ⟨⟨(), _, _, (query_update exec_update_loginSessions).mpr ⟨allowed, rfl, rfl⟩, trivial, rfl⟩, rfl⟩

/-- A touch that answers well moves the deadlines of its session, and a failed one changes nothing. -/
theorem touch_rows {id : Uuid} {idle : Time} {entry : Entry}
    (isCall : entry = Entry.calm app.sha (.touchLoginSession id now idle) db) {row : LoginSession}
    (member : row ∈ entry.after.loginSessions) :
    row ∈ db.loginSessions ∨
      entry.outcome.isOk = true ∧ ∃ old ∈ db.loginSessions, row = touchedRow now idle old := by
  subst isCall
  rcases (Entry.calm_ran app.sha (.touchLoginSession id now idle) db).cases with ran | ⟨-, unchanged⟩
  · obtain ⟨answered, -, isAfter⟩ := touchLoginSession_ok.mp ran
    rw [isAfter] at member
    obtain ⟨old, inBefore, same⟩ := mem_updateRows.mp member
    split at same
    · exact .inr ⟨by rw [answered]; rfl, old, inBefore, same⟩
    · exact .inl (same ▸ inBefore)
  · rw [unchanged] at member
    exact .inl member

/-! ## Histories -/

/-- A call of `Authenticate`: the state it found, its time and its result. -/
structure Visit where
  seen : Db
  now : Time
  result : Except SessionError Principal

/-- The transaction records no activity of the session with this digest, and creates no other session
with it. -/
def Rests (hash : Bytes) (before after : Db) : Prop :=
  ∀ row ∈ after.loginSessions, row.tokenHash = hash → ∃ old ∈ before.loginSessions,
    old.id = row.id ∧ old.lastSeenAt = row.lastSeenAt ∧ old.idleExpiresAt = row.idleExpiresAt

/-- Calls of `Authenticate` with one token, newest first, and other transactions of the store between
them. -/
inductive History (app : Application) (token : String) (first : Db) : List Visit → Db → Prop where
  | start : History app token first [] first
  | visit {visits : List Visit} {db : Db} (past : History app token first visits db)
      (environment : Environment) (now : Time) {tick : Nat} {left : Nat × Db}
      {result : Except SessionError Principal}
      (ran : (authenticate app token now).run (alone app.sha environment) (tick, db) =
        .ok (result, left)) :
      History app token first (⟨db, now, result⟩ :: visits) left.2
  | other {visits : List Visit} {entry : Entry} (past : History app token first visits entry.before)
      (took : entry.Ran app.sha)
      (rests : Rests (hashSessionToken app token) entry.before entry.after) :
      History app token first visits entry.after

theorem Authenticated.sound {result : Except SessionError Principal}
    (ended : Authenticated app token now db result after) (sound : db.Sound) : after.Sound := by
  cases ended with
  | refused => exact sound
  | kept => exact sound
  | touched _ _ _ isCall =>
    subst isCall
    exact (Entry.calm_ran app.sha _ db).sound sound

section Invariants

variable {first : Db} {visits : List Visit} {created : Time}

theorem History.sound (history : History app token first visits db) (sound : first.Sound) :
    db.Sound := by
  induction history with
  | start => exact sound
  | visit _ _ _ ran ih => exact (authenticate_alone ran).sound ih
  | other _ took _ ih => exact took.sound ih

/-- What another transaction leaves of the rows with the digest. -/
theorem Rests.continues {hash : Bytes} {entry : Entry} (took : entry.Ran app.sha)
    (sound : entry.before.Sound) (rests : Rests hash entry.before entry.after) {row : LoginSession}
    (member : row ∈ entry.after.loginSessions) (isHash : row.tokenHash = hash) :
    ∃ old ∈ entry.before.loginSessions, old.tokenHash = hash ∧ SessionContinues old row ∧
      old.lastSeenAt = row.lastSeenAt ∧ old.idleExpiresAt = row.idleExpiresAt := by
  obtain ⟨old, inBefore, sameID, sameSeen, sameIdle⟩ := rests row member isHash
  have moved := took.evolved.sessions.continues sound.sessions.distinct inBefore member sameID.symm
  have sameHash : row.tokenHash = old.tokenHash := by rw [moved.same]
  exact ⟨old, inBefore, sameHash.symm.trans isHash, moved, sameSeen, sameIdle⟩

/-! ## Idle sessions -/

/-- No row with the digest outlives the absolute expiry, or the idle timeout after a use. -/
def Deadlines (app : Application) (token : String) (created : Time) (visits : List Visit) (db : Db) :
    Prop :=
  ∀ row ∈ db.loginSessions, row.tokenHash = hashSessionToken app token →
    row.expiresAt ≤ created + app.sessionTTL ∧
      (row.idleExpiresAt ≤ created + app.idleTimeout ∨
        ∃ visit ∈ visits, visit.result.isOk = true ∧ row.idleExpiresAt ≤ visit.now + app.idleTimeout)

theorem Deadlines.visited {visit : Visit} (deadlines : Deadlines app token created visits db) :
    Deadlines app token created (visit :: visits) db := by
  intro row member isHash
  obtain ⟨absolute, idle⟩ := deadlines row member isHash
  refine ⟨absolute, idle.imp_right ?_⟩
  rintro ⟨earlier, inVisits, succeeded, bound⟩
  exact ⟨earlier, List.mem_cons_of_mem _ inVisits, succeeded, bound⟩

theorem nextIdleExpiry_le {absolute : Time} :
    nextIdleExpiry app now absolute ≤ now + app.idleTimeout := by
  unfold nextIdleExpiry
  split
  · rename_i capped
    exact le_of_lt capped
  · exact le_rfl

theorem History.deadlines (history : History app token first visits db) (sound : first.Sound)
    (opened : Deadlines app token created [] first) : Deadlines app token created visits db := by
  induction history with
  | start => exact opened
  | @visit visits db _ _ now _ left result ran ih =>
    have ended := authenticate_alone ran
    generalize left.2 = after at ended
    cases ended with
    | refused => exact ih.visited
    | kept => exact ih.visited
    | @touched principal _ _ _ entry isCall _ answered =>
      intro row member isHash
      rcases touch_rows isCall member with unchanged | ⟨succeeded, old, inBefore, rfl⟩
      · exact ih.visited row unchanged isHash
      · refine ⟨(ih old inBefore isHash).1, .inr ⟨_, List.mem_cons_self, answered.trans succeeded, ?_⟩⟩
        calc min old.expiresAt (timestamp (nextIdleExpiry app now principal.expiresAt))
            ≤ timestamp (nextIdleExpiry app now principal.expiresAt) := min_le_right _ _
          _ ≤ nextIdleExpiry app now principal.expiresAt := timestamp_le _
          _ ≤ now + app.idleTimeout := nextIdleExpiry_le
  | other past took rests ih =>
    intro row member isHash
    obtain ⟨old, inBefore, oldHash, moved, -, sameIdle⟩ :=
      rests.continues took (past.sound sound) member isHash
    have sameExpiry : row.expiresAt = old.expiresAt := by rw [moved.same]
    rw [sameExpiry, ← sameIdle]
    exact ih old inBefore oldHash

/-- A use that succeeds comes before the deadlines. -/
theorem Authenticated.before_deadlines {result : Except SessionError Principal}
    (ended : Authenticated app token now db result after) (succeeded : result.isOk = true)
    (deadlines : Deadlines app token created visits db) :
    now < created + app.sessionTTL ∧
      (now - created < app.idleTimeout ∨
        ∃ visit ∈ visits, visit.result.isOk = true ∧ now - visit.now < app.idleTimeout) := by
  have usableBound : ∀ principal, findLoginSession db (hashSessionToken app token) = some principal →
      principal.usable now = true → now < created + app.sessionTTL ∧
        (now - created < app.idleTimeout ∨
          ∃ visit ∈ visits, visit.result.isOk = true ∧ now - visit.now < app.idleTimeout) := by
    intro principal found usable
    obtain ⟨row, member, isHash, user, rfl⟩ := findLoginSession_some found
    simp only [Principal.usable, mapPrincipal, Bool.and_eq_true] at usable
    obtain ⟨⟨⟨-, beforeExpiry⟩, beforeIdle⟩, -⟩ := usable
    have beforeExpiry := of_decide_eq_true beforeExpiry
    have beforeIdle := of_decide_eq_true beforeIdle
    obtain ⟨absolute, idle⟩ := deadlines row member isHash
    refine ⟨lt_of_lt_of_le beforeExpiry absolute, ?_⟩
    rcases idle with bound | ⟨visit, inVisits, visitOk, bound⟩
    · exact .inl (by lia)
    · exact .inr ⟨visit, inVisits, visitOk, by lia⟩
  cases ended with
  | refused => exact absurd succeeded Bool.false_ne_true
  | kept found usable => exact usableBound _ found usable
  | touched found usable => exact usableBound _ found usable

/-! ## Active sessions -/

/-- The instant is a whole number of microseconds, so a column keeps it as it is. -/
def Exact (t : Time) : Prop := timestamp t = t

instance (t : Time) : Decidable (Exact t) := inferInstanceAs (Decidable (timestamp t = t))

theorem Exact.add {s t : Time} (left : Exact s) (right : Exact t) : Exact (s + t) := by
  simp only [Exact, timestamp, microseconds] at left right ⊢
  lia

/-- The last use, or the creation. -/
def lastUse (created : Time) : List Visit → Time
  | [] => created
  | visit :: _ => visit.now

/-- Uses in order, each at most half of the idle timeout after the one before it. -/
def Spaced (app : Application) (created : Time) : List Visit → Prop
  | [] => True
  | visit :: earlier =>
    lastUse created earlier ≤ visit.now ∧
      2 * (visit.now - lastUse created earlier) ≤ app.idleTimeout ∧ Spaced app created earlier

/-- The session with the digest is not revoked, and its user is active. -/
def Alive (hash : Bytes) (db : Db) : Prop :=
  ∃ row ∈ db.loginSessions, row.tokenHash = hash ∧ row.revokedAt = none ∧
    ∃ user, db.user? row.userID = some user ∧ user.status = .active

instance (hash : Bytes) (db : Db) : Decidable (Alive hash db) :=
  decidable_of_iff
    (∃ row ∈ db.loginSessions, row.tokenHash = hash ∧ row.revokedAt = none ∧
      ∃ user ∈ db.user? row.userID, user.status = .active) Iff.rfl

/-- The activity of a session that was last used at `used`. -/
structure Recorded (app : Application) (created used : Time) (row : LoginSession) : Prop where
  createdAt : row.createdAt = created
  expiresAt : row.expiresAt = created + app.sessionTTL
  notBefore : created ≤ row.lastSeenAt
  notAfter : row.lastSeenAt ≤ used
  recent : used - row.lastSeenAt < minutes 5
  idle : row.idleExpiresAt = min row.expiresAt (row.lastSeenAt + app.idleTimeout)

/-- The next use comes before the idle deadline. -/
theorem Recorded.before_idle {used : Time} {row : LoginSession} (recorded : Recorded app created used row)
    (long : minutes 10 ≤ app.idleTimeout ∨ app.idleTimeout = app.sessionTTL)
    (soon : 2 * (now - used) ≤ app.idleTimeout) (inTime : now < created + app.sessionTTL) :
    now < row.idleExpiresAt := by
  obtain ⟨-, expiresAt, notBefore, notAfter, recent, idle⟩ := recorded
  simp only [minutes, seconds] at recent long
  rw [idle, expiresAt, lt_min_iff]
  refine ⟨inTime, ?_⟩
  rcases long with long | same
  · lia
  · rw [same]
    lia

theorem nextIdleExpiry_exact {absolute : Time} (exactNow : Exact now) (exactIdle : Exact app.idleTimeout)
    (exactEnd : Exact absolute) :
    timestamp (nextIdleExpiry app now absolute) = min absolute (now + app.idleTimeout) := by
  unfold nextIdleExpiry
  split
  · rename_i capped
    exact exactEnd.trans (min_eq_left (le_of_lt capped)).symm
  · rename_i fits
    exact (exactNow.add exactIdle).trans (min_eq_right (Int.not_lt.mp fits)).symm

/-- The checks of a session row pass after a touch. -/
theorem touchedRow_checks {idle : Time} {row : LoginSession} (valid : checkViolation row.checks = none)
    (seen : row.createdAt ≤ timestamp now) (later : row.createdAt < min row.expiresAt (timestamp idle)) :
    checkViolation (touchedRow now idle row).checks = none := by
  simp only [checkViolation_eq_none, LoginSession.checks, List.forall_mem_cons, Bool.and_eq_true,
    decide_eq_true_eq] at valid ⊢
  obtain ⟨csrf, ⟨⟨⟨⟨⟨⟨-, authenticated⟩, expires⟩, -⟩, -⟩, csrfExpires⟩, revoked⟩, rest⟩ := valid
  exact ⟨csrf, ⟨⟨⟨⟨⟨⟨seen, authenticated⟩, expires⟩, later⟩, min_le_left _ _⟩, csrfExpires⟩, revoked⟩, rest⟩

/-- An undisturbed touch of a live session succeeds, and records the use. -/
theorem touch_recorded {used : Time} {row : LoginSession} (sound : db.Sound)
    (member : row ∈ db.loginSessions) (unrevoked : row.revokedAt = none)
    (recorded : Recorded app created used row) (forward : used ≤ now) (exactNow : Exact now)
    (exactIdle : Exact app.idleTimeout) (exactEnd : Exact row.expiresAt) (beforeEnd : now < row.expiresAt)
    (beforeIdle : now < row.idleExpiresAt) {entry : Entry}
    (isCall : entry = Entry.calm app.sha (.touchLoginSession row.id now
      (nextIdleExpiry app now row.expiresAt)) db) :
    entry.outcome.isOk = true ∧
      ∀ other ∈ entry.after.loginSessions, other.tokenHash = row.tokenHash →
        Recorded app created now other := by
  have deadline := nextIdleExpiry_exact exactNow exactIdle exactEnd
  have positive := app.sessionBounds.1
  have started : row.createdAt ≤ now := by
    rw [recorded.createdAt]
    exact recorded.notBefore.trans (recorded.notAfter.trans forward)
  have guarded : SessionChange.guard (.touch (timestamp now)
      (timestamp (nextIdleExpiry app now row.expiresAt))) row = true := by
    rw [show timestamp now = now from exactNow]
    simp only [SessionChange.guard, unrevoked, Option.isNone_none, Bool.true_and, Bool.and_eq_true]
    exact ⟨decide_eq_true beforeEnd, decide_eq_true beforeIdle⟩
  have allowed : ∀ other ∈ db.loginSessions,
      SessionChange.guard (.touch (timestamp now) (timestamp (nextIdleExpiry app now row.expiresAt)))
        other && other.id == row.id →
      checkViolation (touchedRow now (nextIdleExpiry app now row.expiresAt) other).checks = none := by
    intro other inRows matching
    have sameID : other.id = row.id := by
      simp only [Bool.and_eq_true, beq_iff_eq] at matching
      exact matching.2
    obtain rfl := sound.sessions.unique inRows member sameID
    refine touchedRow_checks (sound.sessions.valid _ inRows) ?_ ?_
    · rwa [show timestamp now = now from exactNow]
    · rw [deadline, min_eq_right (min_le_left _ _), lt_min_iff]
      exact ⟨lt_of_le_of_lt started beforeEnd, by lia⟩
  have isEntry : inTx ((Call.touchLoginSession row.id now
      (nextIdleExpiry app now row.expiresAt)).body app.sha) .calm .calm db = (.ok (.ok .done), _) :=
    inTx_calm_ok.mpr (touchLoginSession_ok.mpr ⟨rfl, allowed, rfl⟩)
  subst isCall
  simp only [Entry.calm, seenByCaller, isEntry]
  refine ⟨rfl, fun other inAfter sameHash => ?_⟩
  obtain ⟨old, inBefore, rfl⟩ := mem_updateRows.mp inAfter
  have oldHash : old.tokenHash = row.tokenHash := by
    split at sameHash
    · exact sameHash
    · exact sameHash
  obtain rfl := eq_of_key sound.sessionTokens inBefore member oldHash
  rw [if_pos (by simp [guarded])]
  refine ⟨recorded.createdAt, recorded.expiresAt, ?_, ?_, ?_, ?_⟩
  · simp only [touchedRow, show timestamp now = now from exactNow]
    rwa [← recorded.createdAt]
  · exact le_of_eq exactNow
  · simp only [touchedRow, show timestamp now = now from exactNow, minutes, seconds]
    lia
  · simp only [touchedRow, deadline, show timestamp now = now from exactNow]
    exact min_eq_right (min_le_left _ _)

/-- A use of an active session succeeds and is recorded. -/
theorem Authenticated.active {used : Time} {result : Except SessionError Principal}
    (ended : Authenticated app token now db result after) (valid : validToken token "s1_" = true)
    (sound : db.Sound) (alive : Alive (hashSessionToken app token) db)
    (recorded : ∀ row ∈ db.loginSessions, row.tokenHash = hashSessionToken app token →
      Recorded app created used row)
    (long : minutes 10 ≤ app.idleTimeout ∨ app.idleTimeout = app.sessionTTL) (forward : used ≤ now)
    (soon : 2 * (now - used) ≤ app.idleTimeout) (inTime : now < created + app.sessionTTL)
    (exactNow : Exact now) (exactIdle : Exact app.idleTimeout)
    (exactEnd : Exact (created + app.sessionTTL)) :
    result.isOk = true ∧ ∀ row ∈ after.loginSessions, row.tokenHash = hashSessionToken app token →
      Recorded app created now row := by
  obtain ⟨row, member, isHash, unrevoked, user, isUser, active⟩ := alive
  have isRecorded := recorded row member isHash
  have beforeEnd : now < row.expiresAt := by rwa [isRecorded.expiresAt]
  have beforeIdle := isRecorded.before_idle long soon inTime
  have isFound : findLoginSession db (hashSessionToken app token) = some (mapPrincipal row user) := by
    have found : db.loginSessions.find? (·.tokenHash == hashSessionToken app token) = some row :=
      (find?_key sound.sessionTokens).mpr ⟨member, isHash⟩
    simp only [findLoginSession, found, Option.bind_some, isUser, Option.map_some]
  have usable : (mapPrincipal row user).usable now = true := by
    simp [Principal.usable, mapPrincipal, unrevoked, active, beforeEnd, beforeIdle]
  cases ended with
  | refused _ unusable =>
    rw [unusable _ valid isFound] at usable
    exact absurd usable Bool.false_ne_true
  | kept found _ recent =>
    cases isFound.symm.trans found
    refine ⟨rfl, fun other inRows otherHash => ?_⟩
    obtain rfl := eq_of_key sound.sessionTokens inRows member (otherHash.trans isHash.symm)
    exact { isRecorded with
      notAfter := isRecorded.notAfter.trans forward
      recent := recent }
  | touched found _ _ isCall answered =>
    cases isFound.symm.trans found
    obtain ⟨succeeded, rows⟩ := touch_recorded sound member unrevoked isRecorded forward exactNow
      exactIdle (by rwa [isRecorded.expiresAt]) beforeEnd beforeIdle isCall
    exact ⟨answered.trans succeeded, fun other inAfter otherHash =>
      rows other inAfter (otherHash.trans isHash.symm)⟩

/-- What every use of an active session leaves, until the absolute expiry. -/
def Active (app : Application) (token : String) (created : Time) (visits : List Visit) (db : Db) : Prop :=
  created + app.sessionTTL ≤ lastUse created visits ∨
    ∀ row ∈ db.loginSessions, row.tokenHash = hashSessionToken app token →
      Recorded app created (lastUse created visits) row

theorem History.active (history : History app token first visits db) (sound : first.Sound)
    (valid : validToken token "s1_" = true) (opened : Active app token created [] first)
    (long : minutes 10 ≤ app.idleTimeout ∨ app.idleTimeout = app.sessionTTL)
    (exactIdle : Exact app.idleTimeout) (exactEnd : Exact (created + app.sessionTTL))
    (exactVisits : ∀ visit ∈ visits, Exact visit.now) (spaced : Spaced app created visits)
    (alive : ∀ visit ∈ visits, Alive (hashSessionToken app token) visit.seen) :
    Active app token created visits db ∧
      ∀ visit ∈ visits, visit.now < created + app.sessionTTL → visit.result.isOk = true := by
  induction history with
  | start => exact ⟨opened, fun visit member => absurd member List.not_mem_nil⟩
  | @visit visits db past _ now _ left result ran ih =>
    obtain ⟨forward, soon, spacedBefore⟩ := spaced
    obtain ⟨activeBefore, earlier⟩ := ih (fun visit member => exactVisits visit (.tail _ member))
      spacedBefore fun visit member => alive visit (.tail _ member)
    by_cases inTime : now < created + app.sessionTTL
    · have recorded := activeBefore.resolve_left fun late => by lia
      obtain ⟨succeeded, recordedAfter⟩ := (authenticate_alone ran).active valid (past.sound sound)
        (alive _ List.mem_cons_self) recorded long forward soon inTime
        (exactVisits _ List.mem_cons_self) exactIdle exactEnd
      refine ⟨.inr recordedAfter, fun visit member => ?_⟩
      rcases List.mem_cons.mp member with rfl | inPast
      · exact fun _ => succeeded
      · exact earlier visit inPast
    · refine ⟨.inl (Int.not_lt.mp inTime), fun visit member => ?_⟩
      rcases List.mem_cons.mp member with rfl | inPast
      · exact fun early => absurd early inTime
      · exact earlier visit inPast
  | other past took rests ih =>
    obtain ⟨activeBefore, earlier⟩ := ih exactVisits spaced alive
    refine ⟨activeBefore.imp_right fun recorded row member isHash => ?_, earlier⟩
    obtain ⟨old, inBefore, oldHash, moved, sameSeen, sameIdle⟩ :=
      rests.continues took (past.sound sound) member isHash
    have recordedOld := recorded old inBefore oldHash
    have sameExpiry : row.expiresAt = old.expiresAt := by rw [moved.same]
    have sameCreation : row.createdAt = old.createdAt := by rw [moved.same]
    exact
      { createdAt := sameCreation.trans recordedOld.createdAt
        expiresAt := sameExpiry.trans recordedOld.expiresAt
        notBefore := sameSeen ▸ recordedOld.notBefore
        notAfter := sameSeen ▸ recordedOld.notAfter
        recent := sameSeen ▸ recordedOld.recent
        idle := by rw [← sameIdle, ← sameSeen, sameExpiry, recordedOld.idle] }

end Invariants

/-! ## A session from its creation on -/

theorem validToken_new (mark : String) (random : RandomBytes 32) :
    validToken (newSessionToken mark random) mark = true := by
  have shape : (newSessionToken mark random).toList = mark.toList ++ encodeRawURL random.1 := by
    simp [newSessionToken]
  rw [validToken, shape]
  simp only [Bool.and_eq_true, beq_iff_eq]
  constructor
  · exact List.isPrefixOf_iff_prefix.mpr (List.prefix_append _ _)
  · rw [← String.length_toList, List.drop_left, decodedLength_encodeRawURL, random.2]

theorem newAuthenticated_ran {userID : Uuid} {userAgent ipPrefix : String} {issued : IssuedSession}
    {seen : Nat × Db}
    (made : (newAuthenticated app userID now userAgent ipPrefix).run (alone app.sha environment) seen =
      .ok (issued, left)) :
    validToken issued.token "s1_" = true ∧
      issued.record.createdAt = now ∧ issued.record.lastSeenAt = now ∧
      issued.record.expiresAt = now + app.sessionTTL ∧
      issued.record.idleExpiresAt = nextIdleExpiry app now (now + app.sessionTTL) := by
  simp only [newAuthenticated, Program.run_bind_ok, run_perform, alone, Except.ok.injEq, Prod.mk.injEq,
    Program.run_pure_ok] at made
  obtain ⟨bytes, s, ⟨rfl, rfl⟩, csrf, s, ⟨rfl, rfl⟩, id, s, ⟨rfl, rfl⟩, rfl, rfl⟩ := made
  exact ⟨validToken_new _ _, rfl, rfl, rfl, rfl⟩

/-- A session that is used often enough lives until its absolute expiry, provided that the idle timeout
is at least ten minutes or the absolute one; and a use succeeds only before the absolute expiry and
within the idle timeout after an earlier use or the creation. -/
theorem sessions_follow_activity {userID : Uuid} {created : Time} {userAgent ipPrefix : String}
    {issued : IssuedSession} {seen : Nat × Db} {first : Db} {visits : List Visit}
    (made : (newAuthenticated app userID created userAgent ipPrefix).run (alone app.sha environment)
      seen = .ok (issued, left))
    (sound : first.Sound)
    (stored : ∀ row ∈ first.loginSessions, row.tokenHash = hashSessionToken app issued.token →
      ∃ binding, row = { issued.record.row with sessionBindingID := binding })
    (history : History app issued.token first visits db) :
    ((minutes 10 ≤ app.idleTimeout ∨ app.idleTimeout = app.sessionTTL) →
      Exact created → Exact app.sessionTTL → Exact app.idleTimeout →
      (∀ visit ∈ visits, Exact visit.now) → Spaced app created visits →
      (∀ visit ∈ visits, Alive (hashSessionToken app issued.token) visit.seen) →
      ∀ visit ∈ visits, visit.now < created + app.sessionTTL → visit.result.isOk = true) ∧
    ∀ later visit earlier, visits = later ++ visit :: earlier → visit.result.isOk = true →
      visit.now < created + app.sessionTTL ∧
        (visit.now - created < app.idleTimeout ∨
          ∃ use ∈ earlier, use.result.isOk = true ∧ visit.now - use.now < app.idleTimeout) := by
  obtain ⟨valid, isCreated, isSeen, isEnd, isIdle⟩ := newAuthenticated_ran made
  constructor
  · intro long exactCreated exactTTL exactIdle exactVisits spaced alive
    have exactEnd := exactCreated.add exactTTL
    refine (history.active sound valid (.inr fun row member isHash => ?_) long exactIdle exactEnd
      exactVisits spaced alive).2
    obtain ⟨binding, rfl⟩ := stored row member isHash
    have seenAt : timestamp issued.record.lastSeenAt = created := by rw [isSeen, exactCreated]
    have endAt : timestamp issued.record.expiresAt = created + app.sessionTTL := by rw [isEnd, exactEnd]
    have idleAt : timestamp issued.record.idleExpiresAt =
        min (created + app.sessionTTL) (created + app.idleTimeout) := by
      rw [isIdle, nextIdleExpiry_exact exactCreated exactIdle exactEnd]
    refine ⟨?_, endAt, seenAt.ge, seenAt.le, ?_, ?_⟩
    · simp only [SessionRecord.row, isCreated, show timestamp created = created from exactCreated]
    · simp only [SessionRecord.row, lastUse, seenAt, minutes, seconds]
      lia
    · simp only [SessionRecord.row, seenAt, endAt, idleAt]
  · have opened : Deadlines app issued.token created [] first := by
      intro row member isHash
      obtain ⟨binding, rfl⟩ := stored row member isHash
      refine ⟨?_, .inl ?_⟩
      · exact (timestamp_le _).trans isEnd.le
      · exact (timestamp_le _).trans (isIdle.le.trans nextIdleExpiry_le)
    intro later visit earlier split succeeded
    induction history generalizing later with
    | start => exact absurd split (by simp)
    | @visit visits db past _ now _ left result ran ih =>
      cases later with
      | nil =>
        obtain ⟨rfl, rfl⟩ := List.cons.inj split
        exact (authenticate_alone ran).before_deadlines succeeded (past.deadlines sound opened)
      | cons last later => exact ih later (List.cons.inj split).2
    | other _ _ _ ih => exact ih later split

end Sessions

/-! ## Two sessions -/

namespace Sample

open OneIssuer.Sample (user start at')

/-- A session that was just created. -/
def issued (app : Application) : IssuedSession :=
  (runAlone app environment (newAuthenticated app user.id start "" "") (1, Db.empty .utc)).1

/-- The database after the login. -/
def entered (app : Application) : Db :=
  { Db.empty .utc with
    users := [user]
    loginSessions := [(issued app).record.row] }

/-- A use of the session. -/
def use (app : Application) (db : Db) (now : Time) : Except SessionError Principal × (Nat × Db) :=
  runAlone app environment (authenticate app (issued app).token now) (9, db)

/-- Two uses, 150 and 300 seconds after the login. -/
def uses (app : Application) : List Visit :=
  [⟨(use app (entered app) (at' 150)).2.2, at' 300,
      (use app (use app (entered app) (at' 150)).2.2 (at' 300)).1⟩,
    ⟨entered app, at' 150, (use app (entered app) (at' 150)).1⟩]

theorem uses_history (app : Application) :
    History app (issued app).token (entered app) (uses app)
      (use app (use app (entered app) (at' 150)).2.2 (at' 300)).2.2 :=
  .visit (.visit .start environment (at' 150) (runAlone_ok app environment _ _)) environment (at' 300)
    (runAlone_ok app environment _ _)

theorem uses_exact (app : Application) : ∀ visit ∈ uses app, Exact visit.now := by
  simp only [uses, List.forall_mem_cons]
  exact ⟨by decide, by decide, List.forall_mem_nil _⟩

theorem uses_spaced {app : Application} (wide : minutes 5 ≤ app.idleTimeout) :
    Spaced app start (uses app) := by
  have first : start ≤ at' 150 ∧ 2 * (at' 150 - start) ≤ minutes 5 := by decide
  have second : at' 150 ≤ at' 300 ∧ 2 * (at' 300 - at' 150) ≤ minutes 5 := by decide
  exact ⟨second.1, second.2.trans wide, first.1, first.2.trans wide, trivial⟩

theorem entered_sound {app : Application}
    (valid : checkViolation (issued app).record.row.checks = none) : (entered app).Sound :=
  have validUser : checkViolation user.checks = none := by decide +kernel
  { Db.sound_empty .utc with
    users := ⟨List.nodup_singleton _, by simpa [entered] using validUser⟩
    sessions := ⟨List.nodup_singleton _, by simpa [entered] using valid⟩
    sessionTokens := List.nodup_singleton _ }

theorem entered_stored (app : Application) : ∀ row ∈ (entered app).loginSessions,
    row.tokenHash = hashSessionToken app (issued app).token →
    ∃ binding, row = { (issued app).record.row with sessionBindingID := binding } := by
  intro row member _
  rw [List.mem_singleton.mp member]
  exact ⟨(issued app).record.row.sessionBindingID, rfl⟩

/-- The idle timeout is five minutes. -/
def hasty : Application :=
  { app with
    idleTimeout := minutes 5
    sessionBounds := by decide }

/-- With an idle timeout of an hour both uses succeed. -/
theorem sessions_follow_activity_sample :
    (uses app).length = 2 ∧ ∀ visit ∈ uses app, visit.result.isOk = true := by
  have made := runAlone_ok app environment
    (newAuthenticated app user.id start "" "") (1, Db.empty .utc)
  have inTime : ∀ visit ∈ uses app, visit.now < start + app.sessionTTL := by
    simp only [uses, List.forall_mem_cons]
    exact ⟨by decide, by decide, List.forall_mem_nil _⟩
  refine ⟨rfl, fun visit member => ?_⟩
  exact (sessions_follow_activity made (entered_sound (by decide +kernel)) (entered_stored app)
    (uses_history app)).1 (.inl (by decide)) (by decide) (by decide) (by decide) (uses_exact app)
    (uses_spaced (by decide)) (by decide +kernel) visit member (inTime visit member)

/-- With an idle timeout of five minutes the second use comes too late, although it comes in time. -/
theorem active_session_dies :
    ¬ ∀ (app : Application) (environment : Environment) (userID : Uuid) (created : Time)
      (issued : IssuedSession) (seen left : Nat × Db) (first db : Db) (visits : List Visit),
      (newAuthenticated app userID created "" "").run (alone app.sha environment) seen =
        .ok (issued, left) →
      first.Sound →
      (∀ row ∈ first.loginSessions, row.tokenHash = hashSessionToken app issued.token →
        ∃ binding, row = { issued.record.row with sessionBindingID := binding }) →
      History app issued.token first visits db →
      Exact created → Exact app.sessionTTL → Exact app.idleTimeout →
      (∀ visit ∈ visits, Exact visit.now) → Spaced app created visits →
      (∀ visit ∈ visits, Alive (hashSessionToken app issued.token) visit.seen) →
      ∀ visit ∈ visits, visit.now < created + app.sessionTTL → visit.result.isOk = true := by
  intro everywhere
  have made := runAlone_ok hasty environment
    (newAuthenticated hasty user.id start "" "") (1, Db.empty .utc)
  have succeeds := everywhere hasty environment user.id start (issued hasty) _ _ (entered hasty) _
    (uses hasty) made (entered_sound (by decide +kernel)) (entered_stored hasty) (uses_history hasty)
    (by decide) (by decide) (by decide) (uses_exact hasty) (uses_spaced (by decide)) (by decide +kernel)
    _ List.mem_cons_self (by decide)
  revert succeeds
  decide +kernel

end Sample

end OneIssuer.Browser
