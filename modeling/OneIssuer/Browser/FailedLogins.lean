import OneIssuer.Browser.Activity
import OneIssuer.Frames
import OneIssuer.Password

/-!
# Failed logins

What a login form with wrong credentials shows about accounts. The login runs alone and Argon2 has room
for it. Its run is followed with a meter: how many effects it had, how many times Argon2 computed a key,
and what the database holds.

**What it does not establish.** That two failed logins take the same time on a machine: the meter counts
effects and Argon2 computations.
-/

set_option autoImplicit false

namespace OneIssuer.Browser

open Relational Store Token Identity Wire

/-! ## Argon2 -/

/-- The parameters that the configuration admits, with the lengths that `NewService` sets. -/
structure Configured (params : Argon2Params) : Prop where
  memory : 19456 ≤ params.memoryKiB.toNat ∧ params.memoryKiB.toNat ≤ 1048576
  time : 2 ≤ params.time.toNat ∧ params.time.toNat ≤ 10
  threads : 1 ≤ params.threads.toNat ∧ params.threads.toNat ≤ 16
  saltLen : params.saltLen = 16
  keyLen : params.keyLen = 32

/-- The text is an output of `Hash`, under some configuration. -/
def HashOutput (argon2 : Argon2) (text : Octets) : Prop :=
  ∃ hasher : PasswordHasher, Configured hasher.params ∧ ∃ password salt : Octets,
    salt.length = hasher.params.saltLen.toNat ∧ hasher.hash argon2 .entered password salt = .done text

/-- The hashing part of `identity.Service`. -/
structure PasswordService where
  hasher : PasswordHasher
  argon2 : Argon2
  dummyHash : Octets
  dummy : HashOutput argon2 dummyHash
  /-- The salt that the random source yields at an effect. -/
  salt : Nat → Bytes

/-- What `VerifyLogin` makes of the answer of `Verify`. -/
def checkOf : Outcome (Bool × Bool) → PasswordCheck
  | .done (true, needsRehash) => .matched needsRehash
  | .done (false, _) => .mismatch
  | .refused .busy => .busy
  | _ => .failed

/-! ## Metered runs -/

/-- The number of effects, the number of keys that Argon2 computed, and the database. -/
structure Meter where
  tick : Nat
  keys : Nat
  db : Db

section Metered

variable (app : Application) (environment : Environment) (passwords : PasswordService)

/-- The hash that a password is compared with. -/
def PasswordService.compared (stored : Option String) : Octets :=
  (stored.map octets).getD passwords.dummyHash

/-- `Verify` with room for it. -/
def PasswordService.check (password : String) (stored : Option String) : PasswordCheck :=
  checkOf (passwords.hasher.verify passwords.argon2 .entered (octets password)
    (passwords.compared stored))

/-- `Hash` with room for it. -/
def PasswordService.newHash (password : String) (tick : Nat) : Except HashFailure String :=
  match passwords.hasher.hash passwords.argon2 .entered (octets password) (passwords.salt tick) with
  | .done text => ((text? text).map Except.ok).getD (.error .failed)
  | .refused .busy => .error .busy
  | _ => .error .failed

/-- What an effect answers when nothing else runs and nothing fails. -/
def metered : ⦃γ : Type⦄ → Effect γ → Meter → γ × Meter
  | _, .randomBytes, s => (environment.bytes s.tick, { s with tick := s.tick + 1 })
  | _, .randomUuid, s => (environment.uuid s.tick, { s with tick := s.tick + 1 })
  | _, .query read, s => (some (read s.db), { s with tick := s.tick + 1 })
  | _, .call call, s =>
    ((Entry.calm app.sha call s.db).outcome,
      { s with tick := s.tick + 1, db := (Entry.calm app.sha call s.db).after })
  | _, .checkPassword password stored, s =>
    (passwords.check password stored,
      { s with
        tick := s.tick + 1
        -- the hash is read before Argon2 is called
        keys := s.keys + if (parsePHC (passwords.compared stored)).isSome then 1 else 0 })
  | _, .hashPassword password, s =>
    (passwords.newHash password s.tick, { s with tick := s.tick + 1, keys := s.keys + 1 })

/-- A run that is metered. -/
def runMetered {α : Type} : Handler α → Meter → α × Meter
  | .done value, s => (value, s)
  | .fail error, _ => nomatch error
  | .ask effect _ next, s =>
    runMetered (next (metered app environment passwords effect s).1)
      (metered app environment passwords effect s).2

variable {app environment passwords}

@[simp] theorem runMetered_pure {α : Type} (value : α) (s : Meter) :
    runMetered app environment passwords (pure value) s = (value, s) := rfl

@[simp] theorem runMetered_perform {γ : Type} (effect : Effect γ) (s : Meter) :
    runMetered app environment passwords (perform effect) s =
      metered app environment passwords effect s := rfl

@[simp] theorem runMetered_bind {α β : Type} (first : Handler α) (rest : α → Handler β) (s : Meter) :
    runMetered app environment passwords (first >>= rest) s =
      runMetered app environment passwords (rest (runMetered app environment passwords first s).1)
        (runMetered app environment passwords first s).2 := by
  induction first generalizing s with
  | done value => rfl
  | fail error => exact nomatch error
  | ask effect wrap next ih => exact ih _ _

end Metered

/-! ## Comparing a password -/

section Comparing

variable {passwords : PasswordService} {password : String} {stored : Option String}

theorem HashOutput.parsed {argon2 : Argon2} {text : Octets} (output : HashOutput argon2 text) :
    (parsePHC text).isSome := by
  obtain ⟨writer, configured, password, salt, isSalt, hashed⟩ := output
  have least := configured.memory.1
  have time := configured.time.2
  have threads := configured.threads.2
  rw [parsePHC_hash writer argon2 ⟨by omega, configured.memory.2⟩ (by omega) (by omega) isSalt hashed]
  rfl

theorem HashOutput.verified {argon2 : Argon2} {text : Octets} (output : HashOutput argon2 text)
    (hasher : PasswordHasher) (presented : Octets) :
    ∃ answer, hasher.verify argon2 .entered presented text = .done answer := by
  obtain ⟨writer, configured, password, salt, isSalt, hashed⟩ := output
  have least := configured.memory.1
  have time := configured.time.2
  have threads := configured.threads.2
  exact verify_hash_done writer hasher argon2 ⟨by omega, configured.memory.2⟩ (by omega) (by omega)
    isSalt hashed

/-- What is compared is an output of `Hash` when what is stored is one. -/
theorem compared_output (outputs : ∀ hash, stored = some hash → HashOutput passwords.argon2 (octets hash)) :
    HashOutput passwords.argon2 (passwords.compared stored) := by
  cases stored with
  | none => exact passwords.dummy
  | some hash => exact outputs hash rfl

theorem check_answers
    (outputs : ∀ hash, stored = some hash → HashOutput passwords.argon2 (octets hash)) :
    passwords.check password stored = .mismatch ∨
      ∃ needsRehash, passwords.check password stored = .matched needsRehash := by
  obtain ⟨⟨isMatch, needsRehash⟩, answered⟩ :=
    (compared_output outputs).verified passwords.hasher (octets password)
  rw [PasswordService.check, answered]
  cases isMatch with
  | false => exact .inl rfl
  | true => exact .inr ⟨needsRehash, rfl⟩

end Comparing

/-! ## The form -/

/-- The form passes everything but the credentials: its browser session and its transaction are valid and
belong together, and an attempt is left. -/
structure ValidForm (app : Application) (input : FormInput) (now : Time) (db : Db)
    (preauth : PreAuthSession) (transaction : AuthTransaction) : Prop where
  given : input.preAuthToken ≠ "" ∧ input.transactionToken ≠ ""
  found : db.preAuthSessions.find? (·.tokenHash == hashSessionToken app input.preAuthToken) =
    some preauth
  valid : validatePreAuth app preauth input.preAuthToken input.csrfToken now = .ok ()
  token : validToken input.transactionToken "t1_" = true
  resolved : db.authTransactions.find?
    (·.tokenHash == Authflow.hashToken app.sha input.transactionToken) = some transaction
  pending : transaction.consumedAt = none ∧ now < transaction.expiresAt
  belongs : transaction.id = preauth.authTransactionID
  left : preauth.attemptCount < maxAuthenticationAttempts

/-- One attempt of a browser session is used up. -/
def attempted (db : Db) (id : Uuid) : Db :=
  { db with
    preAuthSessions := updateRows (·.id == id) (fun row => { row with attemptCount := row.attemptCount + 1 })
      db.preAuthSessions }

section Form

variable {app : Application} {environment : Environment} {passwords : PasswordService}
  {input : FormInput} {now : Time} {db after : Db} {preauth : PreAuthSession}
  {transaction : AuthTransaction} {tick keys : Nat}

/-- A call whose body succeeds. -/
theorem metered_call {call : Call} {outcome : Except StoreError Answer}
    (ran : (call.body app.sha).run exec db = .ok (outcome, after)) :
    metered app environment passwords (.call call) ⟨tick, keys, db⟩ =
      (outcome, ⟨tick + 1, keys, after⟩) := by
  have entry : inTx (call.body app.sha) .calm .calm db = (.ok outcome, after) := inTx_calm_ok.mpr ran
  simp only [metered, Entry.calm, seenByCaller, entry]
  rfl

theorem validatePreAuth_ok
    (valid : validatePreAuth app preauth input.preAuthToken input.csrfToken now = .ok ()) :
    preauth.consumedAt = none ∧ now < preauth.expiresAt := by
  rw [validatePreAuth] at valid
  split at valid
  · cases valid
  · rename_i unusable
    simp only [Bool.or_eq_true, Bool.not_eq_true', decide_eq_true_eq, not_or, Bool.not_eq_true,
      Option.isSome_eq_false_iff, Option.isNone_iff_eq_none] at unusable
    exact ⟨unusable.1.2, Int.not_le.mp unusable.2⟩

theorem reserve_ran (rows : RowsSound PreAuthSession.id PreAuthSession.checks db.preAuthSessions)
    (form : ValidForm app input now db preauth transaction) :
    ((Call.reservePreAuthAttempt preauth.id now maxAuthenticationAttempts).body app.sha).run exec db =
      .ok (.ok .done, attempted db preauth.id) := by
  have member : preauth ∈ db.preAuthSessions := List.mem_of_find?_eq_some form.found
  obtain ⟨unconsumed, unexpired⟩ := validatePreAuth_ok form.valid
  have guarded : PreAuthChange.guard (.reserve (timestamp now) maxAuthenticationAttempts) preauth = true := by
    have early : timestamp now < preauth.expiresAt := lt_of_le_of_lt (timestamp_le now) unexpired
    have left := form.left
    simp [PreAuthChange.guard, unconsumed, early, left]
  have checked : checkViolation { preauth with attemptCount := preauth.attemptCount + 1 }.checks = none := by
    have stored := rows.valid preauth member
    have left : preauth.attemptCount < 5 := form.left
    simp only [checkViolation_eq_none, PreAuthSession.checks, List.forall_mem_cons, Bool.and_eq_true,
      decide_eq_true_eq] at stored ⊢
    exact ⟨⟨by omega, by omega⟩, stored.2⟩
  have same : updateRows
      (fun row => PreAuthChange.guard (.reserve (timestamp now) maxAuthenticationAttempts) row &&
      row.id == preauth.id) (PreAuthChange.apply (.reserve (timestamp now) maxAuthenticationAttempts))
      db.preAuthSessions = (attempted db preauth.id).preAuthSessions := by
    refine List.map_congr_left fun row inRows => ?_
    by_cases isRow : row.id = preauth.id
    · obtain rfl := rows.unique inRows member isRow
      simp only [guarded, beq_self_eq_true, Bool.and_self, if_true, PreAuthChange.apply]
    · simp only [beq_eq_false_iff_ne.mpr isRow, Bool.and_false, Bool.false_eq_true, if_false]
  have updates : exec (Queries.reservePreAuthAttempt preauth.id (timestamp now) maxAuthenticationAttempts) db =
      store (fun rows => { db with preAuthSessions := rows })
        ((TableStmt.update (fun row : PreAuthSession => row.id == preauth.id)
          (.reserve (timestamp now) maxAuthenticationAttempts)).exec preAuthSessionsTable db
          db.preAuthSessions) := rfl
  rw [Call.body, quietly_ok]
  refine ⟨⟨(), ?_⟩, rfl⟩
  simp only [Store.reservePreAuthAttempt, Program.run_bind_ok, Program.run_pure_ok, Prod.mk.injEq]
  refine ⟨_, _, (queryRow_update updates ?_).mpr
    ⟨preauth, member, beq_self_eq_true _, guarded, checked, rfl, rfl⟩, trivial, ?_⟩
  · intro a inA b inB isA isB
    exact rows.unique inA inB ((beq_iff_eq.mp isA).trans (beq_iff_eq.mp isB).symm)
  · exact congrArg (fun rows => { db with preAuthSessions := rows }) same.symm

theorem enterFlow_metered
    (rows : RowsSound PreAuthSession.id PreAuthSession.checks db.preAuthSessions)
    (form : ValidForm app input now db preauth transaction) :
    runMetered app environment passwords (enterFlow app input now) ⟨tick, keys, db⟩ =
      (.ok (preauth, Authflow.mapAuthTransaction transaction),
        ⟨tick + 3, keys, attempted db preauth.id⟩) := by
  have given : (input.preAuthToken == "" || input.transactionToken == "") = false := by
    simp [form.given]
  have pending : (transaction.consumedAt.isSome || decide (transaction.expiresAt ≤ now)) = false := by
    have late := form.pending.2
    simp [form.pending.1, late]
  have belongs : ((Authflow.mapAuthTransaction transaction).id == preauth.authTransactionID) = true :=
    beq_iff_eq.mpr form.belongs
  have resolved : runMetered app environment passwords (resolve app input.transactionToken now)
      ⟨tick + 1, keys, db⟩ =
      (some (Authflow.mapAuthTransaction transaction), ⟨tick + 2, keys, db⟩) := by
    rw [resolve, form.token]
    simp only [Bool.not_true, Bool.false_eq_true, if_false, runMetered_bind, runMetered_perform, metered,
      form.resolved, pending, runMetered_pure]
  have flow : runMetered app environment passwords (validateFlow app input.preAuthToken input.csrfToken
      input.transactionToken now) ⟨tick, keys, db⟩ =
      (.ok (preauth, Authflow.mapAuthTransaction transaction), ⟨tick + 2, keys, db⟩) := by
    rw [validateFlow, given]
    simp only [Bool.false_eq_true, if_false, runMetered_bind, runMetered_perform, metered, form.found,
      form.valid, resolved, belongs, if_true, runMetered_pure]
  rw [enterFlow, runMetered_bind, flow]
  simp only [runMetered_bind, runMetered_perform, metered_call (reserve_ran rows form), runMetered_pure]

/-! ## The event -/

theorem recordEvent_metered {type : Audit.EventType}
    (ordinary : type ∉ [.authorizationCodeExchangeRejected, .refreshTokenExchangeRejected,
      .refreshTokenReuseDetected]) {target : Option Uuid} {requestID : Audit.RequestID}
    (clock : now ≠ 0) (known : target ≠ some Uuid.nil)
    (fresh : ∀ event ∈ db.auditEvents, event.id ≠ (environment.uuid tick).1) :
    ∃ event, runMetered app environment passwords (recordEvent type ordinary target requestID now)
      ⟨tick, keys, db⟩ = ((), ⟨tick + 2, keys, db.logged event⟩) := by
  let event : Audit.Event :=
    { id := (environment.uuid tick).1, type, result := .rejected, actorUserID := none
      targetType := target.map fun _ => .user, targetID := target, requestID := requestID.text
      changedFields := [], occurredAt := now }
  have valid : event.validate = true := by
    simp [event, Audit.Event.validate, (environment.uuid tick).2, Time.isZero, clock, requestID.valid,
      known]
  have made : newServiceEvent event ordinary = some ⟨event, valid, ordinary⟩ := dif_pos valid
  have allowed : event.row.insertViolation db = none := by
    have unrestricted : event.row.oncePerTarget = none := AuditEvent.oncePerTarget_eq_none ordinary
    have isRequest : (pointerString requestID.text).all
        (fun text => text != "" && Audit.validRequestID text) = true := by
      by_cases isEmpty : requestID.text = ""
      · simp [pointerString, isEmpty]
      · simp [pointerString, isEmpty, requestID.valid]
    have isTarget : ((target.map fun _ => Audit.TargetType.user).isSome == target.isSome) = true := by
      cases target <;> rfl
    simp only [AuditEvent.insertViolation, firstViolation_eq_none, List.mem_cons, List.not_mem_nil,
      or_false, forall_eq_or_imp, forall_eq, checkViolation_eq_none, AuditEvent.checks, unrestricted]
    refine ⟨⟨rfl, isRequest, isTarget⟩, ?_, rfl, rfl⟩
    rw [uniqueViolation_eq_none, List.any_eq_false]
    exact fun old member => by simpa [event, Audit.Event.row] using fresh old member
  have ran : ((Call.appendAudit ⟨event, valid, ordinary⟩).body app.sha).run exec db =
      .ok (.ok .done, db.logged event.row) := by
    rw [Call.body, quietly_ok]
    exact ⟨⟨(), insertAudit_ok.mpr ⟨valid, allowed, rfl⟩⟩, rfl⟩
  refine ⟨event.row, ?_⟩
  have drawn : metered app environment passwords .randomUuid ⟨tick, keys, db⟩ =
      (environment.uuid tick, ⟨tick + 1, keys, db⟩) := rfl
  rw [recordEvent, runMetered_bind, runMetered_perform, drawn, made]
  simp only [runMetered_bind, runMetered_perform, metered_call ran, runMetered_pure]

/-! ## Refused logins -/

/-- The account that an identifier names. -/
def recordOf (app : Application) (db : Db) (identifier : String) : Option LoginRecord :=
  match normalizeLoginIdentifier app.unicode identifier with
  | .error _ => none
  | .ok normalized => findCredentialForLogin db normalized

/-- What the program keeps true of the tables a login reads; the stored hashes are outputs of `Hash`. -/
structure LoginState (passwords : PasswordService) (db : Db) : Prop where
  preauth : RowsSound PreAuthSession.id PreAuthSession.checks db.preAuthSessions
  users : ∀ user ∈ db.users, user.id ≠ Uuid.nil
  hashes : ∀ credential ∈ db.credentials, HashOutput passwords.argon2 (octets credential.passwordHash)

/-- The identifier names no active account with this password. -/
def Unverified (app : Application) (passwords : PasswordService) (db : Db)
    (identifier password : String) : Prop :=
  ∀ record, recordOf app db identifier = some record → record.user.status = .active →
    ∀ needsRehash, passwords.check password (some record.passwordHash) ≠ .matched needsRehash

theorem mem_of_recordOf {identifier : String} {record : LoginRecord}
    (found : recordOf app db identifier = some record) :
    record.user ∈ db.users ∧
      ∃ credential ∈ db.credentials, credential.passwordHash = record.passwordHash := by
  rw [recordOf] at found
  split at found
  · cases found
  · rename_i normalized _
    have listed : record ∈ credentialsFor db normalized := by
      rcases List.mem_append.mp (List.mem_of_head? found) with named | named
      · exact List.mem_of_mem_filter named
      · exact List.mem_of_mem_filter named
    obtain ⟨user, isUser, member⟩ := List.mem_flatMap.mp listed
    split at member
    · obtain ⟨credential, isCredential, rfl⟩ := List.mem_map.mp member
      exact ⟨isUser, credential, List.mem_of_mem_filter isCredential, rfl⟩
    · cases member

theorem login_refused {identifier password : String} (state : LoginState passwords db)
    (form : ValidForm app input now db preauth transaction) (clock : now ≠ 0)
    (fresh : ∀ n, ∀ event ∈ db.auditEvents, event.id ≠ (environment.uuid n).1)
    (unverified : Unverified app passwords db identifier password) :
    ∃ event last, runMetered app environment passwords (login app input identifier password now)
      ⟨tick, keys, db⟩ =
      (.error .invalidCredentials, ⟨last, keys + 1, (attempted db preauth.id).logged event⟩) := by
  -- the account is looked up, or the identifier is no name of one
  have looked : ∃ between, runMetered app environment passwords (loginRecord app identifier)
      ⟨tick + 3, keys, attempted db preauth.id⟩ =
      (some (recordOf app db identifier), ⟨between, keys, attempted db preauth.id⟩) := by
    rw [loginRecord, recordOf]
    cases normalizeLoginIdentifier app.unicode identifier with
    | error failure => exact ⟨_, rfl⟩
    | ok normalized => exact ⟨_, rfl⟩
  obtain ⟨between, looked⟩ := looked
  generalize isRecord : recordOf app db identifier = record at looked
  have outputs : ∀ hash, record.map (·.passwordHash) = some hash →
      HashOutput passwords.argon2 (octets hash) := by
    intro hash isHash
    obtain ⟨found, rfl, rfl⟩ := Option.map_eq_some_iff.mp isHash
    obtain ⟨-, credential, stored, isSame⟩ := mem_of_recordOf isRecord
    exact isSame ▸ state.hashes credential stored
  have known : record.map (·.user.id) ≠ some Uuid.nil := by
    intro isNil
    obtain ⟨found, rfl, isUser⟩ := Option.map_eq_some_iff.mp isNil
    exact state.users found.user (mem_of_recordOf isRecord).1 isUser
  have counted : (parsePHC (passwords.compared (record.map (·.passwordHash)))).isSome :=
    (compared_output outputs).parsed
  -- whatever Argon2 answers, the credentials are refused
  have refused : ∃ refusal, LoginRefusal.error app identifier refusal = .invalidCredentials ∧
      verifyLogin (passwords.check password (record.map (·.passwordHash))) record = .error refusal := by
    rcases check_answers outputs with mismatch | ⟨needsRehash, matched⟩
    · rw [mismatch]
      exact ⟨.invalidCredentials, rfl, by cases record <;> rfl⟩
    · rw [matched]
      cases record with
      | none => exact ⟨.invalidCredentials, rfl, rfl⟩
      | some found =>
        have inactive : found.user.status ≠ .active := fun active =>
          unverified found isRecord active needsRehash matched
        refine ⟨.disabled, rfl, ?_⟩
        rw [verifyLogin, if_pos (bne_iff_ne.mpr inactive)]
  obtain ⟨refusal, isAnswer, refused⟩ := refused
  have verified : runMetered app environment passwords (verify password record)
      ⟨between, keys, attempted db preauth.id⟩ =
      (.error refusal, ⟨between + 1, keys + 1, attempted db preauth.id⟩) := by
    rw [verify, runMetered_bind, runMetered_perform]
    simp only [metered, refused, counted, if_true, runMetered_pure]
  have recorded : ∃ event, runMetered app environment passwords
      (recordLoginFailure record refusal input.requestID now)
      ⟨between + 1, keys + 1, attempted db preauth.id⟩ =
      ((), ⟨between + 3, keys + 1, (attempted db preauth.id).logged event⟩) := by
    rw [recordLoginFailure]
    split
    · exact recordEvent_metered _ clock known (fresh _)
    · exact recordEvent_metered _ clock known (fresh _)
  obtain ⟨event, recorded⟩ := recorded
  refine ⟨event, between + 3, ?_⟩
  rw [login, runMetered_bind, enterFlow_metered state.preauth form]
  simp only [runMetered_bind, looked, verified, recorded, runMetered_pure, isAnswer]

/-- A form is as valid in a state that has the same browser sessions and transactions. -/
theorem ValidForm.of_same {other : Db} (form : ValidForm app input now db preauth transaction)
    (sessions : db.Same other .preAuthSessions) (transactions : db.Same other .authTransactions) :
    ValidForm app input now other preauth transaction :=
  { form with
    found := by
      rw [show other.preAuthSessions = db.preAuthSessions from sessions]
      exact form.found
    resolved := by
      rw [show other.authTransactions = db.authTransactions from transactions]
      exact form.resolved }

end Form

/-- Two logins with the same form in states that differ only in accounts, of which none has the
credentials: both answer `ErrInvalidCredentials`, both compute one key, and both change nothing but the
attempts of the browser session and add one event. -/
theorem failed_logins_alike (app : Application) (environment : Environment) (passwords : PasswordService)
    (input : FormInput) (identifier password : String) (now : Time) (left right : Db)
    (others : ∀ table, table ≠ .users → table ≠ .credentials → left.Same right table)
    (leftState : LoginState passwords left) (rightState : LoginState passwords right)
    (preauth : PreAuthSession) (transaction : AuthTransaction)
    (form : ValidForm app input now left preauth transaction) (clock : now ≠ 0)
    (fresh : ∀ n, ∀ event ∈ left.auditEvents, event.id ≠ (environment.uuid n).1)
    (leftUnverified : Unverified app passwords left identifier password)
    (rightUnverified : Unverified app passwords right identifier password) :
    ∀ db ∈ [left, right], ∃ event last,
      runMetered app environment passwords (login app input identifier password now) ⟨0, 0, db⟩ =
        (.error .invalidCredentials, ⟨last, 1, (attempted db preauth.id).logged event⟩) := by
  have sameEvents : right.auditEvents = left.auditEvents := others .auditEvents (by decide) (by decide)
  have rightForm := form.of_same (others .preAuthSessions (by decide) (by decide))
    (others .authTransactions (by decide) (by decide))
  intro db member
  rcases List.mem_pair.mp member with isLeft | isRight
  · subst isLeft
    exact login_refused leftState form clock fresh leftUnverified
  · subst isRight
    exact login_refused rightState rightForm clock (sameEvents ▸ fresh) rightUnverified

namespace Sample

open OneIssuer.Sample (start at' user requestID event)
open Identity.Sample (argon2)

def hasher : PasswordHasher := ⟨⟨65536, 3, 2, 16, 32⟩, by decide, by decide, by decide⟩

theorem hasher_configured : Configured hasher.params :=
  ⟨by decide, by decide, by decide, rfl, rfl⟩

/-- The hash of a password, with a salt of zeros. -/
def phc (password : String) : Octets :=
  formatPHC hasher.params (List.replicate 16 0)
    (argon2.key (octets password) (List.replicate 16 0) 3 65536 2 32)

theorem phc_output (password : String) : HashOutput argon2 (phc password) :=
  ⟨hasher, hasher_configured, octets password, List.replicate 16 0, rfl, rfl⟩

def passwordService : PasswordService where
  hasher := hasher
  argon2 := argon2
  dummyHash := phc "dummy"
  dummy := phc_output "dummy"
  salt _ := List.replicate 16 0

def loginForm : FormInput :=
  { preAuthToken := token "p1_" 1, csrfToken := token "c1_" 2, transactionToken := token "t1_" 3
    existingSessionToken := "", userAgent := "", ipPrefix := "", requestID }

def formPreAuth : PreAuthSession :=
  { id := 4, tokenHash := hashSessionToken app (token "p1_" 1), csrfHash := hashCSRF app (token "c1_" 2)
    authTransactionID := 3, createdAt := start, expiresAt := start + minutes 10, consumedAt := none
    attemptCount := 0 }

def formTransaction : AuthTransaction :=
  { id := 3, tokenHash := Authflow.hashToken sha (token "t1_" 3), transactionKind := .kindLocal
    clientID := none, redirectURI := none, scopes := [], pkceChallenge := none, pkceMethod := none
    stateValue := none, nonceValue := none, promptCreate := false, responseType := none
    responseMode := none, promptValues := [], maxAgeSeconds := none, createdAt := start
    expiresAt := start + minutes 10, consumedAt := none, failureReason := none }

/-- A form was shown, and these are the accounts and the events. -/
def shown (users : List User) (credentials : List Credential) (events : List AuditEvent) : Db :=
  { Db.empty .utc with
    users, credentials, preAuthSessions := [formPreAuth], authTransactions := [formTransaction]
    auditEvents := events }

/-- The password of the sample account is "right". -/
def credential : Credential :=
  ⟨1, (text? (phc "right")).getD "", start, start⟩

/-- The account, made `n` seconds after the start. -/
def accountFrom (n : Int) : User := { user with createdAt := at' n, updatedAt := at' n }

/-- A login with the form at a time. -/
def loginAt (now : Time) (password : String) (db : Db) : Except AuthnError IssuedSession × Meter :=
  runMetered app environment passwordService (login app loginForm "ann" password now) ⟨0, 0, db⟩

theorem logins_evaluated :
    octets credential.passwordHash = phc "right" ∧
      checkViolation formPreAuth.checks = none ∧
      validToken loginForm.transactionToken "t1_" = true ∧
      (∀ now ∈ [0, start],
        validatePreAuth app formPreAuth loginForm.preAuthToken loginForm.csrfToken now = .ok () ∧
          now < formTransaction.expiresAt) ∧
      (loginForm.preAuthToken ≠ "" ∧ loginForm.transactionToken ≠ "") ∧
      passwordService.check "wrong" (some credential.passwordHash) = .mismatch ∧
      (loginAt start "right" (shown [accountFrom 1] [credential] [])).1.map (fun _ => ()) =
        .error .failed ∧
      (loginAt 0 "right" (shown [] [] [])).2.db.auditEvents = [] ∧
      (loginAt start "right" (shown [] [] [(event 104).event.row])).2.db.auditEvents =
        [(event 104).event.row] := by
  decide +kernel

theorem validForm_shown {now : Time} (early : now ∈ [0, start]) (users : List User)
    (credentials : List Credential) (events : List AuditEvent) :
    ValidForm app loginForm now (shown users credentials events) formPreAuth formTransaction := by
  obtain ⟨-, -, token, valid, given, -⟩ := logins_evaluated
  exact
    { given, token, valid := (valid now early).1, pending := ⟨rfl, (valid now early).2⟩
      found := List.find?_cons_of_pos (beq_self_eq_true _)
      resolved := List.find?_cons_of_pos (beq_self_eq_true _)
      belongs := rfl, left := by decide }

theorem loginState_shown {users : List User} (known : ∀ account ∈ users, account.id = 1)
    {credentials : List Credential} (stored : ∀ row ∈ credentials, row = credential)
    (events : List AuditEvent) : LoginState passwordService (shown users credentials events) where
  preauth := ⟨List.nodup_singleton _, List.forall_mem_singleton.mpr logins_evaluated.2.1⟩
  users account member := by
    rw [known account member]
    decide
  hashes row member := by
    rw [stored row member, logins_evaluated.1]
    exact phc_output "right"

theorem loginState_nobody (events : List AuditEvent) :
    LoginState passwordService (shown [] [] events) :=
  loginState_shown (fun _ member => absurd member List.not_mem_nil)
    (fun _ member => absurd member List.not_mem_nil) events

theorem loginState_ann (n : Int) :
    LoginState passwordService (shown [accountFrom n] [credential] []) := by
  refine loginState_shown (fun account member => ?_) (fun row member => List.mem_singleton.mp member) []
  rw [List.mem_singleton.mp member]
  rfl

end Sample

section Accounts

open OneIssuer.Browser.Sample
open OneIssuer.Sample (start)

/-- A login for an unknown name and one with a wrong password. -/
theorem failed_logins_alike_ann :
    Unverified app passwordService (shown [] [] []) "ann" "wrong" ∧
    Unverified app passwordService (shown [accountFrom 0] [credential] []) "ann" "wrong" ∧
    ∀ db ∈ [shown [] [] [], shown [accountFrom 0] [credential] []], ∃ event last,
      runMetered app environment passwordService (login app loginForm "ann" "wrong" start) ⟨0, 0, db⟩ =
        (.error .invalidCredentials, ⟨last, 1, (attempted db formPreAuth.id).logged event⟩) := by
  have same : ∀ table, table ≠ .users → table ≠ .credentials →
      (shown [] [] []).Same (shown [accountFrom 0] [credential] []) table := by
    intro table notUsers notCredentials
    cases table with
    | users => exact absurd rfl notUsers
    | credentials => exact absurd rfl notCredentials
    | _ => exact rfl
  have nobody : Unverified app passwordService (shown [] [] []) "ann" "wrong" := by
    intro record found
    exact absurd (mem_of_recordOf found).1 List.not_mem_nil
  have wrong : Unverified app passwordService (shown [accountFrom 0] [credential] []) "ann" "wrong" := by
    intro record found _ needsRehash matched
    obtain ⟨-, row, stored, isHash⟩ := mem_of_recordOf found
    rw [← isHash, List.mem_singleton.mp stored, logins_evaluated.2.2.2.2.2.1] at matched
    cases matched
  have fresh : ∀ n, ∀ event ∈ (shown [] [] []).auditEvents, event.id ≠ (environment.uuid n).1 :=
    fun _ _ member => absurd member List.not_mem_nil
  refine ⟨nobody, wrong, ?_⟩
  exact failed_logins_alike app environment passwordService loginForm "ann" "wrong" start _ _ same
    (loginState_nobody []) (loginState_ann 0) formPreAuth formTransaction
    (validForm_shown (by simp) [] [] []) (by decide) fresh nobody wrong

/-- Logins that succeed nowhere and still differ from a refusal of credentials. The password is right,
but the account was made by a clock that is ahead, and the login cannot be written down; at Go's zero
time there is no event; and there is none when its identifier is taken. -/
theorem failed_logins_that_differ :
    (ValidForm app loginForm start (shown [accountFrom 1] [credential] []) formPreAuth formTransaction ∧
      LoginState passwordService (shown [accountFrom 1] [credential] []) ∧
      (loginAt start "right" (shown [accountFrom 1] [credential] [])).1.map (fun _ => ()) =
        .error .failed) ∧
    (ValidForm app loginForm 0 (shown [] [] []) formPreAuth formTransaction ∧
      LoginState passwordService (shown [] [] []) ∧
      (loginAt 0 "right" (shown [] [] [])).2.db.auditEvents = []) ∧
    ∃ taken, ValidForm app loginForm start (shown [] [] [taken]) formPreAuth formTransaction ∧
      LoginState passwordService (shown [] [] [taken]) ∧
      (loginAt start "right" (shown [] [] [taken])).2.db.auditEvents = [taken] := by
  obtain ⟨-, -, -, -, -, -, ahead, zero, taken⟩ := logins_evaluated
  refine ⟨⟨?_, loginState_ann 1, ahead⟩, ⟨?_, loginState_nobody [], zero⟩,
    _, ?_, loginState_nobody _, taken⟩
  · exact validForm_shown (by simp) _ _ _
  · exact validForm_shown (by simp) _ _ _
  · exact validForm_shown (by simp) _ _ _

end Accounts

end OneIssuer.Browser
