import OneIssuer.Soundness
import OneIssuer.Store.Logout

/-!
# Rules for running store operations

How the building blocks of a store operation run: what a successful query, lock or write says about
the two states around it. Proofs about an operation take its run apart with `Program.run_bind_ok`
and these lemmas. In a sound database a lock or an update by a key answers with the one row that has
the key. Bodies that only read and lock leave the database as it is (`run_readOnly`).
-/

set_option autoImplicit false

namespace OneIssuer

open Relational

/-! ## Results of queries -/

section Queries

variable {β ρ : Type} {operation : String} {db after : Db}

@[simp] theorem Tx.query_ok {statement : Stmt β} {result : β × Db} :
    (Tx.query operation statement).run exec db = .ok result ↔ exec statement db = .ok result := by
  simp [Tx.query]

@[simp] theorem Tx.queryOne_ok {statement : Stmt (List ρ)} {row : Option ρ} :
    (Tx.queryOne operation statement).run exec db = .ok (row, after) ↔
      ∃ rows, exec statement db = .ok (rows, after) ∧ row = rows.head? := by
  simp only [Tx.queryOne, Program.run_bind_ok, Tx.query_ok, Program.run_pure_ok, Prod.mk.injEq]
  constructor
  · rintro ⟨rows, s, executed, rfl, rfl⟩
    exact ⟨rows, executed, rfl⟩
  · rintro ⟨rows, executed, rfl⟩
    exact ⟨rows, after, executed, rfl, rfl⟩

@[simp] theorem Tx.queryRow_ok {absent : StoreError} {statement : Stmt (List ρ)} {row : ρ} :
    (Tx.queryRow operation absent statement).run exec db = .ok (row, after) ↔
      ∃ rows, exec statement db = .ok (rows, after) ∧ rows.head? = some row := by
  simp only [Tx.queryRow, Program.run_bind_ok, Tx.queryOne_ok, Program.run_need_ok]
  constructor
  · rintro ⟨found, s, ⟨rows, executed, rfl⟩, isRow, rfl⟩
    exact ⟨rows, executed, isRow⟩
  · rintro ⟨rows, executed, isRow⟩
    exact ⟨rows.head?, after, ⟨rows, executed, rfl⟩, isRow, rfl⟩

theorem exec_read_ok {reading : Db → β} {answer : β} :
    exec (.read reading) db = .ok (answer, after) ↔ answer = reading db ∧ after = db := by
  rw [exec]
  simp [eq_comm]

@[simp] theorem Store.write_ok {wrap : PgError → StoreError} {statement : Stmt β}
    {result : β × Db} :
    (Store.write wrap statement).run exec db = .ok result ↔ exec statement db = .ok result := by
  simp [Store.write]

end Queries

/-! ## Locks -/

section Locks

variable {ρ χ : Type} {db after : Db}

/-- The rows a locking read answers with. -/
def lockedRows (order : ρ → ρ → Bool) (matching : ρ → Bool) (table : List ρ) : List ρ :=
  (table.filter matching).insertionSort fun a b => order a b

theorem store_lock_ok {spec : TableSpec Db ρ χ PgError} {put : List ρ → Db} {table rows : List ρ}
    {matching : ρ → Bool} (same : put table = db) :
    store put ((TableStmt.lock matching : TableStmt ρ χ (List ρ)).exec spec db table) =
        .ok (rows, after) ↔
      rows = lockedRows spec.order matching table ∧ after = db := by
  simp only [store_ok, TableStmt.exec_lock_ok]
  constructor
  · rintro ⟨kept, ⟨rfl, rfl⟩, rfl⟩
    exact ⟨rfl, same⟩
  · rintro ⟨rfl, rfl⟩
    exact ⟨table, ⟨rfl, rfl⟩, same.symm⟩

theorem exec_lock_users {matching : User → Bool} {rows : List User} :
    exec (.users (.lock matching)) db = .ok (rows, after) ↔
      rows = lockedRows usersTable.order matching db.users ∧ after = db := by
  rw [exec]
  exact store_lock_ok rfl

theorem exec_lock_clients {matching : ClientRow → Bool} {rows : List ClientRow} :
    exec (.clients (.lock matching)) db = .ok (rows, after) ↔
      rows = lockedRows clientsTable.order matching db.clients ∧ after = db := by
  rw [exec]
  exact store_lock_ok rfl

theorem exec_lock_authTransactions {matching : AuthTransaction → Bool} {rows : List AuthTransaction} :
    exec (.authTransactions (.lock matching)) db = .ok (rows, after) ↔
      rows = lockedRows authTransactionsTable.order matching db.authTransactions ∧ after = db := by
  rw [exec]
  exact store_lock_ok rfl

theorem exec_lock_consentGrants {matching : ConsentGrant → Bool} {rows : List ConsentGrant} :
    exec (.consentGrants (.lock matching)) db = .ok (rows, after) ↔
      rows = lockedRows consentGrantsTable.order matching db.consentGrants ∧ after = db := by
  rw [exec]
  exact store_lock_ok rfl

theorem exec_lock_authorizationCodes {matching : AuthorizationCode → Bool} {rows : List AuthorizationCode} :
    exec (.authorizationCodes (.lock matching)) db = .ok (rows, after) ↔
      rows = lockedRows authorizationCodesTable.order matching db.authorizationCodes ∧ after = db := by
  rw [exec]
  exact store_lock_ok rfl

theorem exec_lock_refreshTokenFamilies {matching : RefreshTokenFamily → Bool}
    {rows : List RefreshTokenFamily} :
    exec (.refreshTokenFamilies (.lock matching)) db = .ok (rows, after) ↔
      rows = lockedRows refreshTokenFamiliesTable.order matching db.refreshTokenFamilies ∧ after = db := by
  rw [exec]
  exact store_lock_ok rfl

theorem exec_lock_refreshTokens {matching : RefreshToken → Bool} {rows : List RefreshToken} :
    exec (.refreshTokens (.lock matching)) db = .ok (rows, after) ↔
      rows = lockedRows refreshTokensTable.order matching db.refreshTokens ∧ after = db := by
  rw [exec]
  exact store_lock_ok rfl

theorem exec_lock_accessTokens {matching : AccessToken → Bool} {rows : List AccessToken} :
    exec (.accessTokens (.lock matching)) db = .ok (rows, after) ↔
      rows = lockedRows accessTokensTable.order matching db.accessTokens ∧ after = db := by
  rw [exec]
  exact store_lock_ok rfl

theorem mem_lockedRows {order : ρ → ρ → Bool} {matching : ρ → Bool} {table : List ρ} {row : ρ} :
    row ∈ lockedRows order matching table ↔ row ∈ table ∧ matching row = true := by
  rw [lockedRows, List.mem_insertionSort, List.mem_filter]

/-- The first locked row is a row of the table that matches. -/
theorem lockedRows_head {order : ρ → ρ → Bool} {matching : ρ → Bool} {table : List ρ} {row : ρ}
    (head : (lockedRows order matching table).head? = some row) :
    row ∈ table ∧ matching row = true := mem_lockedRows.mp (List.mem_of_head? head)

end Locks

/-! ## Locks by a key -/

section KeyLocks

variable {ρ κ : Type} {table : List ρ} {operation : String} {absent : StoreError} {db after : Db}

/-- A key names at most one row. -/
theorem unique_of_key [BEq κ] [LawfulBEq κ] {key : ρ → κ} (distinct : (table.map key).Nodup) (k : κ) :
    ∀ a ∈ table, ∀ b ∈ table, (key a == k) = true → (key b == k) = true → a = b := by
  intro a inA b inB isA isB
  exact eq_of_key distinct inA inB ((beq_iff_eq.mp isA).trans (beq_iff_eq.mp isB).symm)

theorem queryRow_lock {statement : Stmt (List ρ)} {order : ρ → ρ → Bool} {matching : ρ → Bool}
    {row : ρ}
    (locks : ∀ {rows : List ρ} {after : Db}, exec statement db = .ok (rows, after) ↔
      rows = lockedRows order matching table ∧ after = db)
    (unique : ∀ a ∈ table, ∀ b ∈ table, matching a → matching b → a = b) :
    (Tx.queryRow operation absent statement).run exec db = .ok (row, after) ↔
      (row ∈ table ∧ matching row = true) ∧ after = db := by
  simp only [Tx.queryRow_ok, locks]
  constructor
  · rintro ⟨rows, ⟨rfl, rfl⟩, head⟩
    exact ⟨lockedRows_head head, rfl⟩
  · rintro ⟨found, rfl⟩
    exact ⟨_, ⟨rfl, rfl⟩, (TableStmt.lock_head unique).mpr found⟩

namespace Db.Sound

variable (sound : db.Sound)
include sound

theorem lockUserByID {id : Uuid} {row : User} :
    (Tx.queryRow operation absent (Queries.lockUserByID id)).run exec db = .ok (row, after) ↔
      (row ∈ db.users ∧ row.id = id) ∧ after = db := by
  refine (queryRow_lock exec_lock_users (unique_of_key sound.users.distinct id)).trans ?_
  rw [beq_iff_eq]

theorem lockOIDCClientByID {id : Uuid} {row : ClientRow} :
    (Tx.queryRow operation absent (Queries.lockOIDCClientByID id)).run exec db =
        .ok (row, after) ↔
      (row ∈ db.clients ∧ row.id = id) ∧ after = db := by
  refine (queryRow_lock exec_lock_clients (unique_of_key sound.clients.distinct id)).trans ?_
  rw [beq_iff_eq]

/-- A user and a client have at most one grant. -/
theorem parties_unique (userID clientID : Uuid) :
    ∀ a ∈ db.consentGrants, ∀ b ∈ db.consentGrants,
      (a.userID == userID && a.clientID == clientID) = true →
      (b.userID == userID && b.clientID == clientID) = true → a = b := by
  intro a inA b inB isA isB
  simp only [Bool.and_eq_true, beq_iff_eq] at isA isB
  exact eq_of_key sound.grantParties inA inB
    (Prod.ext (isA.1.trans isB.1.symm) (isA.2.trans isB.2.symm))

theorem lockConsentGrantByUserClient {userID clientID : Uuid} {row : ConsentGrant} :
    (Tx.queryRow operation absent (Queries.lockConsentGrantByUserClient userID clientID)).run exec
        db = .ok (row, after) ↔
      (row ∈ db.consentGrants ∧ row.userID = userID ∧ row.clientID = clientID) ∧ after = db := by
  refine (queryRow_lock exec_lock_consentGrants (sound.parties_unique userID clientID)).trans ?_
  rw [Bool.and_eq_true, beq_iff_eq, beq_iff_eq]

theorem lockOIDCClientByClientID {clientID : String} {row : ClientRow} :
    (Tx.queryRow operation absent (Queries.lockOIDCClientByClientID clientID)).run exec db = .ok (row, after) ↔
      (row ∈ db.clients ∧ row.clientID = clientID) ∧ after = db := by
  refine (queryRow_lock exec_lock_clients (unique_of_key sound.clientIDs clientID)).trans ?_
  rw [beq_iff_eq]

theorem lockAuthorizationCodeByHash {hash : Bytes} {row : AuthorizationCode} :
    (Tx.queryRow operation absent (Queries.lockAuthorizationCodeByHash hash)).run exec db = .ok (row, after) ↔
      (row ∈ db.authorizationCodes ∧ row.codeHash = hash) ∧ after = db := by
  refine (queryRow_lock exec_lock_authorizationCodes (unique_of_key sound.codeHashes hash)).trans ?_
  rw [beq_iff_eq]

theorem lockRefreshTokenFamilyByID {id : Uuid} {row : RefreshTokenFamily} :
    (Tx.queryRow operation absent (Queries.lockRefreshTokenFamilyByID id)).run exec db = .ok (row, after) ↔
      (row ∈ db.refreshTokenFamilies ∧ row.id = id) ∧ after = db := by
  refine (queryRow_lock exec_lock_refreshTokenFamilies (unique_of_key sound.families.distinct id)).trans ?_
  rw [beq_iff_eq]

theorem lockRefreshTokenByID {id : Uuid} {row : RefreshToken} :
    (Tx.queryRow operation absent (Queries.lockRefreshTokenByID id)).run exec db = .ok (row, after) ↔
      (row ∈ db.refreshTokens ∧ row.id = id) ∧ after = db := by
  refine (queryRow_lock exec_lock_refreshTokens (unique_of_key sound.generations.distinct id)).trans ?_
  rw [beq_iff_eq]

end Db.Sound

end KeyLocks

/-! ## Inserts -/

section Inserts

variable {db after : Db} {answer : Unit}

theorem store_insert_ok {ρ χ : Type} {spec : TableSpec Db ρ χ PgError} {put : List ρ → Db}
    {table : List ρ} {row : ρ} :
    store put ((TableStmt.insert row : TableStmt ρ χ Unit).exec spec db table) =
        .ok (answer, after) ↔
      spec.insertViolation db row = none ∧ after = put (table ++ [row]) := by
  simp only [store_ok, TableStmt.exec_insert_ok]
  constructor
  · rintro ⟨rows, ⟨allowed, rfl⟩, rfl⟩
    exact ⟨allowed, rfl⟩
  · rintro ⟨allowed, rfl⟩
    exact ⟨_, ⟨allowed, rfl⟩, rfl⟩

theorem exec_insert_consentGrants {row : ConsentGrant} :
    exec (.consentGrants (.insert row)) db = .ok (answer, after) ↔
      row.insertViolation db = none ∧ after = { db with consentGrants := db.consentGrants ++ [row] } := by
  rw [exec]
  exact store_insert_ok

theorem exec_insert_authorizationCodes {row : AuthorizationCode} :
    exec (.authorizationCodes (.insert row)) db = .ok (answer, after) ↔
      row.insertViolation db = none ∧
        after = { db with authorizationCodes := db.authorizationCodes ++ [row] } := by
  rw [exec]
  exact store_insert_ok

theorem exec_insert_refreshTokenFamilies {row : RefreshTokenFamily} :
    exec (.refreshTokenFamilies (.insert row)) db = .ok (answer, after) ↔
      row.insertViolation db = none ∧
        after = { db with refreshTokenFamilies := db.refreshTokenFamilies ++ [row] } := by
  rw [exec]
  exact store_insert_ok

theorem exec_insert_refreshTokens {row : RefreshToken} :
    exec (.refreshTokens (.insert row)) db = .ok (answer, after) ↔
      row.insertViolation db = none ∧ after = { db with refreshTokens := db.refreshTokens ++ [row] } := by
  rw [exec]
  exact store_insert_ok

theorem exec_insert_accessTokens {row : AccessToken} :
    exec (.accessTokens (.insert row)) db = .ok (answer, after) ↔
      row.insertViolation db = none ∧ after = { db with accessTokens := db.accessTokens ++ [row] } := by
  rw [exec]
  exact store_insert_ok

theorem exec_insert_auditEvents {row : AuditEvent} :
    exec (.auditEvents (.insert row)) db = .ok (answer, after) ↔
      row.insertViolation db = none ∧ after = { db with auditEvents := db.auditEvents ++ [row] } := by
  rw [exec]
  exact store_insert_ok

end Inserts

/-! ## Updates -/

section Updates

variable {ρ χ : Type} {db after : Db}

theorem exec_update_users {matching : User → Bool} {change : UserChange} :
    exec (.users (.update matching change)) db =
      store (fun rows => { db with users := rows })
        ((TableStmt.update matching change).exec usersTable db db.users) := by
  rw [exec]

theorem exec_update_clients {matching : ClientRow → Bool} {change : ClientChange} :
    exec (.clients (.update matching change)) db =
      store (fun rows => { db with clients := rows })
        ((TableStmt.update matching change).exec clientsTable db db.clients) := by
  rw [exec]

theorem exec_update_loginSessions {matching : LoginSession → Bool} {change : SessionChange} :
    exec (.loginSessions (.update matching change)) db =
      store (fun rows => { db with loginSessions := rows })
        ((TableStmt.update matching change).exec loginSessionsTable db db.loginSessions) := by
  rw [exec]

theorem exec_update_authTransactions {matching : AuthTransaction → Bool}
    {change : AuthTransactionChange} :
    exec (.authTransactions (.update matching change)) db =
      store (fun rows => { db with authTransactions := rows })
        ((TableStmt.update matching change).exec authTransactionsTable db db.authTransactions) := by
  rw [exec]

theorem exec_update_consentGrants {matching : ConsentGrant → Bool} {change : GrantChange} :
    exec (.consentGrants (.update matching change)) db =
      store (fun rows => { db with consentGrants := rows })
        ((TableStmt.update matching change).exec consentGrantsTable db db.consentGrants) := by
  rw [exec]

theorem exec_update_authorizationCodes {matching : AuthorizationCode → Bool} {change : CodeChange} :
    exec (.authorizationCodes (.update matching change)) db =
      store (fun rows => { db with authorizationCodes := rows })
        ((TableStmt.update matching change).exec authorizationCodesTable db db.authorizationCodes) := by
  rw [exec]

theorem exec_update_refreshTokenFamilies {matching : RefreshTokenFamily → Bool} {change : FamilyChange} :
    exec (.refreshTokenFamilies (.update matching change)) db =
      store (fun rows => { db with refreshTokenFamilies := rows })
        ((TableStmt.update matching change).exec refreshTokenFamiliesTable db db.refreshTokenFamilies) := by
  rw [exec]

theorem exec_update_refreshTokens {matching : RefreshToken → Bool} {change : GenerationChange} :
    exec (.refreshTokens (.update matching change)) db =
      store (fun rows => { db with refreshTokens := rows })
        ((TableStmt.update matching change).exec refreshTokensTable db db.refreshTokens) := by
  rw [exec]

theorem exec_update_accessTokens {matching : AccessToken → Bool} {change : AccessChange} :
    exec (.accessTokens (.update matching change)) db =
      store (fun rows => { db with accessTokens := rows })
        ((TableStmt.update matching change).exec accessTokensTable db db.accessTokens) := by
  rw [exec]

/-- An update of the one row that matches. -/
theorem queryRow_update {operation : String} {absent : StoreError} {statement : Stmt (List ρ)}
    {spec : TableSpec Db ρ χ PgError} {put : List ρ → Db} {table : List ρ} {matching : ρ → Bool}
    {change : χ} {row : ρ}
    (updates : exec statement db = store put ((TableStmt.update matching change).exec spec db table))
    (unique : ∀ a ∈ table, ∀ b ∈ table, matching a → matching b → a = b) :
    (Tx.queryRow operation absent statement).run exec db = .ok (row, after) ↔
      ∃ old ∈ table, matching old = true ∧ spec.guard change old = true ∧
        spec.updateViolation db change (spec.apply change old) = none ∧
        row = spec.apply change old ∧
        after = put (updateRows (fun row => spec.guard change row && matching row)
          (spec.apply change) table) := by
  rw [Tx.queryRow_ok, updates]
  simp only [store_ok]
  constructor
  · rintro ⟨rows, ⟨kept, ran, rfl⟩, head⟩
    obtain ⟨old, inTable, isMatching, guarded, allowed, rfl, rfl⟩ :=
      (TableStmt.update_head unique).mp ⟨rows, ran, head⟩
    exact ⟨old, inTable, isMatching, guarded, allowed, rfl, rfl⟩
  · rintro ⟨old, inTable, isMatching, guarded, allowed, rfl, rfl⟩
    obtain ⟨rows, ran, head⟩ := (TableStmt.update_head unique).mpr
      ⟨old, inTable, isMatching, guarded, allowed, rfl, rfl⟩
    exact ⟨rows, ⟨_, ran, rfl⟩, head⟩

/-- An update of every row that matches. -/
theorem query_update {statement : Stmt (List ρ)} {spec : TableSpec Db ρ χ PgError}
    {put : List ρ → Db} {table answer : List ρ} {matching : ρ → Bool} {change : χ}
    (updates :
      exec statement db = store put ((TableStmt.update matching change).exec spec db table)) :
    exec statement db = .ok (answer, after) ↔
      (∀ row ∈ table, spec.guard change row && matching row →
        spec.updateViolation db change (spec.apply change row) = none) ∧
      answer = (table.filter fun row => spec.guard change row && matching row).map
        (spec.apply change) ∧
      after = put (updateRows (fun row => spec.guard change row && matching row)
        (spec.apply change) table) := by
  rw [updates]
  simp only [store_ok, TableStmt.exec_update_ok]
  constructor
  · rintro ⟨rows, ⟨allowed, rfl, rfl⟩, rfl⟩
    exact ⟨allowed, rfl, rfl⟩
  · rintro ⟨allowed, rfl, rfl⟩
    exact ⟨_, ⟨allowed, rfl, rfl⟩, rfl⟩

end Updates

/-! ## Bodies that change nothing -/

/-- Statements that read or lock. -/
def Stmt.readOnly {β : Type} : Stmt β → Bool
  | .read _ => true
  | .advisoryLock _ => true
  | .newEventID => true
  | .users s => s.isLock
  | .loginSessions s => s.isLock
  | _ => false

theorem exec_readOnly {β : Type} {statement : Stmt β} {db after : Db} {answer : β}
    (reads : statement.readOnly) (executed : exec statement db = .ok (answer, after)) :
    after = db := by
  cases statement with
  | read select | advisoryLock key | newEventID =>
    cases executed
    rfl
  | users s | loginSessions s =>
    rw [exec] at executed
    obtain ⟨kept, ran, rfl⟩ := store_ok.mp executed
    rw [TableStmt.exec_isLock reads ran]
  | _ => cases reads

/-- A body that only reads and locks leaves the database as it is. -/
theorem run_readOnly {α : Type} {body : Tx α} (reads : body.Only fun _ s => s.readOnly)
    {db after : Db} {value : α} (ran : body.run exec db = .ok (value, after)) : after = db := by
  refine Program.run_rel (R := fun s s' => s' = s) (fun _ => rfl)
    (fun _ _ _ first second => second.trans first) ?_ reads ran
  intro β statement s answer s' isRead executed
  exact exec_readOnly isRead executed

theorem lockAndCheckIdentifiers_unchanged {user : User} {excludeID : Uuid} {db after : Db}
    (ran : (Store.lockAndCheckIdentifiers user excludeID).run exec db = .ok ((), after)) :
    after = db := by
  refine run_readOnly ?_ ran
  unfold Store.lockAndCheckIdentifiers
  refine .bind (.each (fun _ => (Program.only_call _ _).mpr rfl) _) fun _ => .each (fun _ => ?_) _
  refine .bind ((Program.only_call _ _).mpr ?_) fun _ => Program.only_require _ _
  split <;> rfl

theorem protectLastAdmin_unchanged {current updated : User} {db after : Db}
    (ran : (Store.protectLastAdmin current updated).run exec db = .ok ((), after)) :
    after = db := by
  refine run_readOnly ?_ ran
  unfold Store.protectLastAdmin
  refine Program.only_ite.mpr ⟨fun _ => ?_, fun _ => Program.only_pure _⟩
  exact .bind ((Program.only_call _ _).mpr rfl) fun _ => Program.only_require _ _

theorem lockUserSessions_unchanged {commit : Store.UpdateUserCommit} {db after : Db}
    {sessions : List LoginSession}
    (ran : (Store.lockUserSessions commit).run exec db = .ok (sessions, after)) : after = db := by
  refine run_readOnly ?_ ran
  unfold Store.lockUserSessions
  exact Program.only_ite.mpr ⟨fun _ => (Program.only_call _ _).mpr rfl, fun _ => Program.only_pure _⟩

end OneIssuer
