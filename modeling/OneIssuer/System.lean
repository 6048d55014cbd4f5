import OneIssuer.Relational.History
import OneIssuer.Store.Logout

/-!
# The system

A run of the system is a sequence of store calls. Each call is one transaction of `inTx`, and the
row locks order conflicting transactions, so a run is a list of calls in commit order. Three things
make this more than a sequence of function calls:

* the request time of a call is an argument, read before its transaction starts, so commit order
  and the order of the times may differ; `NotBefore` bounds them where a result needs it;
* what a call reads before its transaction it may have read in any earlier state of the run;
* the environment breaks an attempt at its start, at a statement or at its commit, as it likes.

Identifiers and digests come from a random source. The run assumes that a new row of a token table
never has an identifier or a digest that an earlier state of the run contains (`Fresh`).

**What it does not establish.** That the row locks of the store order its transactions as if each ran
alone is the premise of the model, not a result. Requests are in it only through the store calls they
make.
-/

set_option autoImplicit false

namespace OneIssuer

open Relational Store Token

/-! ## Calls -/

/-- What a call returns to its caller; only tokens and the binding of a login are told apart. -/
inductive Answer where
  | done
  | tokens (response : Response)
  | binding (id : Uuid)
  deriving DecidableEq, Repr

/-- The binding in an answer, or Go's zero identifier. -/
def Answer.bindingID : Answer → Uuid
  | .binding id => id
  | _ => Uuid.nil

/-- The calls that write. A state in a constructor is one the call read before its transaction. -/
inductive Call where
  | createPreAuth (record : PreAuthRecord)
  | reservePreAuthAttempt (id : Uuid) (now : Time) (maximum : Int)
  | appendAudit (event : Audit.ServiceEvent)
  | commitRegistration (commit : RegisterCommit)
  | commitLogin (commit : LoginCommit)
  | touchLoginSession (id : Uuid) (lastSeen idleExpires : Time)
  | rotateSessionCSRF (id : Uuid) (hash : Bytes) (expires now : Time)
  | revokeUserSession (userID target : Uuid) (now : Time) (event : Audit.ServiceEvent)
  | revokeManagedSession (id : Uuid) (now : Time) (event : Audit.ServiceEvent)
  | revokeSessionByHash (hash : Bytes) (now : Time) (reason : Option RevokeReason)
      (event : Audit.ServiceEvent)
  | revokeOtherUserSessions (userID currentSession : Uuid) (now : Time) (event : Audit.ServiceEvent)
  | revokeAllManagedUserSessions (userID : Uuid) (now : Time) (event : Audit.ServiceEvent)
  | cleanupSessions (preAuthCutoff retiredCutoff now : Time) (locked : Uuid → Bool)
  | createAuthTransaction (transaction : Transaction) (event : Audit.ServiceEvent)
  | consumeAuthTransaction (id : Uuid) (now : Time) (event : Audit.ServiceEvent)
  | rejectAuthTransaction (id : Uuid) (reason : Option FailureReason) (now : Time)
      (event : Audit.ServiceEvent)
  | expireAuthTransactions (now : Time) (locked : Uuid → Bool)
  | cleanupAuthTransactions (cutoff now : Time) (locked : Uuid → Bool)
  | issueAuthorizationCode (commit : IssueCommit)
  | denyAuthorization (commit : DenyCommit)
  | revokeCurrentUserGrant (input : RevokeInput)
  | bootstrapAdmin (prepared : PreparedUser) (event : Audit.ServiceEvent)
  | createManagedUser (prepared : PreparedUser) (event : Audit.ServiceEvent)
  | updateManagedUser (commit : UpdateUserCommit)
  | createClient (value : Client) (secret : Option SecretRecord) (event : Audit.ServiceEvent)
  | updateClient (value : Client) (event : Audit.ServiceEvent)
  | rotateClientSecret (id : Uuid) (secret : SecretRecord) (now : Time) (event : Audit.ServiceEvent)
  | createLogoutTransaction (value : NewLogout)
  | bindLogoutTransaction (input : BindInput)
  | completeLogoutTransaction (input : CompleteInput)
  | cleanupLogoutTransactions (now terminalCutoff : Time) (locked : Uuid → Bool)
  | exchangeAuthorizationCode (input : ExchangeInput) (mint : MintFunc)
  | exchangeRefreshToken (input : RefreshInput) (mint : RefreshMintFunc)
      (seenGeneration seenFamily : Db)
  | revokeAccessToken (lookup : RevocationLookup) (seen : Db)
  | revokeRefreshToken (lookup : RevocationLookup) (seenGeneration seenFamily : Db)
  | cleanupProtocolArtifacts (cutoff now : Time) (locked : Uuid → Bool)
  | cleanupRefreshArtifacts (cutoff now : Time) (locked : Uuid → Bool)

/-- The rows `ExchangeRefreshToken` and `RevokeToken` look up for a refresh digest. -/
def refreshCandidate (hash : Bytes) (seenGeneration seenFamily : Db) :
    Option (RefreshToken × RefreshTokenFamily) :=
  (seenGeneration.refreshTokens.find? (·.tokenHash == hash)).bind fun generation =>
    (seenFamily.family? generation.familyID).map fun family => (generation, family)

/-- The row `RevokeToken` looks up for an access digest. -/
def accessCandidate (hash : Bytes) (seen : Db) : Option AccessToken :=
  seen.accessTokens.find? (·.jtiHash == hash)

/-- A call that answers nothing the model tells apart. -/
def quietly {α : Type} (body : Tx α) : Tx (Except StoreError Answer) := do
  let _ ← body
  return .ok .done

/-- A call that answers with tokens, or reports an error after it committed. -/
def withTokens (body : Tx (Except StoreError Response)) : Tx (Except StoreError Answer) := do
  let outcome ← body
  return outcome.map Answer.tokens

/-- The access half of `RevokeToken`. -/
def revokeAccessByHash (lookup : RevocationLookup) (seen : Db) : Tx Unit :=
  match lookup.accessJTIHash.bind fun hash => accessCandidate hash seen with
  | none => return ()
  | some candidate => revokeAccessCandidate lookup candidate

/-- The refresh half of `RevokeToken`. -/
def revokeRefreshByHash (lookup : RevocationLookup) (seenGeneration seenFamily : Db) : Tx Unit :=
  match lookup.refreshTokenHash.bind fun hash =>
      refreshCandidate hash seenGeneration seenFamily with
  | none => return ()
  | some (candidate, family) => revokeRefreshCandidate lookup candidate family

/-- `ExchangeRefreshToken` with its two reads. -/
def refreshByHash (sha : Sha256) (input : RefreshInput) (mint : RefreshMintFunc)
    (seenGeneration seenFamily : Db) : Tx (Except StoreError Response) :=
  match refreshCandidate input.tokenHash seenGeneration seenFamily with
  | none => Program.fail .tokenInvalidGrant
  | some (candidate, family) => exchangeRefreshToken sha input mint candidate family

/-- The transaction a call runs. -/
def Call.body (sha : Sha256) : Call → Tx (Except StoreError Answer)
  | .createPreAuth record => quietly (Store.createPreAuth record)
  | .reservePreAuthAttempt id now maximum => quietly (Store.reservePreAuthAttempt id now maximum)
  | .appendAudit event => quietly (Store.appendAudit event)
  | .commitRegistration commit => quietly (Store.commitRegistration commit)
  | .commitLogin commit => do
    let bindingID ← Store.commitLogin commit
    return .ok (.binding bindingID)
  | .touchLoginSession id lastSeen idleExpires =>
    quietly (Store.touchLoginSession id lastSeen idleExpires)
  | .rotateSessionCSRF id hash expires _ => quietly (Store.rotateSessionCSRF id hash expires)
  | .revokeUserSession userID target now event =>
    quietly (Store.revokeUserSession userID target now event)
  | .revokeManagedSession id now event => quietly (Store.revokeManagedSession id now event)
  | .revokeSessionByHash hash now reason event =>
    quietly (Store.revokeSessionByHash hash now reason event)
  | .revokeOtherUserSessions userID current now event =>
    quietly (Store.revokeOtherUserSessions userID current now event)
  | .revokeAllManagedUserSessions userID now event =>
    quietly (Store.revokeAllManagedUserSessions userID now event)
  | .cleanupSessions preAuthCutoff retiredCutoff _ locked =>
    quietly (Store.cleanupSessions preAuthCutoff retiredCutoff locked)
  | .createAuthTransaction transaction event =>
    quietly (Store.createAuthTransaction transaction event)
  | .consumeAuthTransaction id now event => quietly (Store.consumeAuthTransaction id now event)
  | .rejectAuthTransaction id reason now event =>
    quietly (Store.rejectAuthTransaction id reason now event)
  | .expireAuthTransactions now locked => quietly (Store.expireAuthTransactions now locked)
  | .cleanupAuthTransactions cutoff _ locked =>
    quietly (Store.cleanupAuthTransactions cutoff locked)
  | .issueAuthorizationCode commit => quietly (Store.issueAuthorizationCode commit)
  | .denyAuthorization commit => quietly (Store.denyAuthorization commit)
  | .revokeCurrentUserGrant input => quietly (Store.revokeCurrentUserGrant input)
  | .bootstrapAdmin prepared event => quietly (Store.bootstrapAdmin prepared event)
  | .createManagedUser prepared event => quietly (Store.createManagedUser prepared event)
  | .updateManagedUser commit => quietly (Store.updateManagedUser commit)
  | .createClient value secret event => quietly (Store.createClient value secret event)
  | .updateClient value event => quietly (Store.updateClient value event)
  | .rotateClientSecret id secret now event =>
    quietly (Store.rotateClientSecret id secret now event)
  | .createLogoutTransaction value => quietly (Store.createLogoutTransaction value)
  | .bindLogoutTransaction input => quietly (Store.bindLogoutTransaction input)
  | .completeLogoutTransaction input => do
    let outcome ← Store.completeLogoutTransaction input
    return outcome.map fun _ => .done
  | .cleanupLogoutTransactions now terminalCutoff locked =>
    quietly (Store.cleanupLogoutTransactions now terminalCutoff locked)
  | .exchangeAuthorizationCode input mint =>
    withTokens (Store.exchangeAuthorizationCode sha input mint)
  | .exchangeRefreshToken input mint seenGeneration seenFamily =>
    withTokens (refreshByHash sha input mint seenGeneration seenFamily)
  | .revokeAccessToken lookup seen => quietly (revokeAccessByHash lookup seen)
  | .revokeRefreshToken lookup seenGeneration seenFamily =>
    quietly (revokeRefreshByHash lookup seenGeneration seenFamily)
  | .cleanupProtocolArtifacts cutoff _ locked =>
    quietly (Store.cleanupProtocolArtifacts cutoff locked)
  | .cleanupRefreshArtifacts cutoff _ locked =>
    quietly (Store.cleanupRefreshArtifacts cutoff locked)

/-- The request time of a call. -/
def Call.now : Call → Time
  | .createPreAuth record => record.createdAt
  | .reservePreAuthAttempt _ now _ => now
  | .appendAudit event => event.event.occurredAt
  | .commitRegistration commit => commit.session.createdAt
  | .commitLogin commit => commit.now
  | .touchLoginSession _ lastSeen _ => lastSeen
  | .rotateSessionCSRF _ _ _ now => now
  | .revokeUserSession _ _ now _ => now
  | .revokeManagedSession _ now _ => now
  | .revokeSessionByHash _ now _ _ => now
  | .revokeOtherUserSessions _ _ now _ => now
  | .revokeAllManagedUserSessions _ now _ => now
  | .cleanupSessions _ _ now _ => now
  | .createAuthTransaction transaction _ => transaction.createdAt
  | .consumeAuthTransaction _ now _ => now
  | .rejectAuthTransaction _ _ now _ => now
  | .expireAuthTransactions now _ => now
  | .cleanupAuthTransactions _ now _ => now
  | .issueAuthorizationCode commit => commit.createdAt
  | .denyAuthorization commit => commit.deniedAt
  | .revokeCurrentUserGrant input => input.now
  | .bootstrapAdmin prepared _ => prepared.user.createdAt
  | .createManagedUser prepared _ => prepared.user.createdAt
  | .updateManagedUser commit => commit.updated.updatedAt
  | .createClient value _ _ => value.createdAt
  | .updateClient value _ => value.updatedAt
  | .rotateClientSecret _ _ now _ => now
  | .createLogoutTransaction value => value.createdAt
  | .bindLogoutTransaction input => input.now
  | .completeLogoutTransaction input => input.now
  | .cleanupLogoutTransactions now _ _ => now
  | .exchangeAuthorizationCode input _ => input.now
  | .exchangeRefreshToken input _ _ _ => input.now
  | .revokeAccessToken lookup _ => lookup.now
  | .revokeRefreshToken lookup _ _ => lookup.now
  | .cleanupProtocolArtifacts _ now _ => now
  | .cleanupRefreshArtifacts _ now _ => now

/-- The cutoffs of a cleanup: it deletes what ended at or before them. -/
def Call.cutoffs : Call → List Time
  | .cleanupSessions preAuthCutoff retiredCutoff _ _ => [preAuthCutoff, retiredCutoff]
  | .cleanupAuthTransactions cutoff _ _ => [cutoff]
  | .cleanupLogoutTransactions now terminalCutoff _ => [now, terminalCutoff]
  | .cleanupProtocolArtifacts cutoff _ _ => [cutoff]
  | .cleanupRefreshArtifacts cutoff _ _ => [cutoff]
  | _ => []

/-- The states a call read before its transaction. -/
def Call.reads : Call → List Db
  | .exchangeRefreshToken _ _ seenGeneration seenFamily => [seenGeneration, seenFamily]
  | .revokeAccessToken _ seen => [seen]
  | .revokeRefreshToken _ seenGeneration seenFamily => [seenGeneration, seenFamily]
  | _ => []

/-! ## Runs -/

/-- One call of a run: what the environment did to its attempts, what it answered and the states
around it. -/
structure Entry where
  call : Call
  first : Attempt
  second : Attempt
  outcome : Except StoreError Answer
  before : Db
  after : Db

/-- What a caller sees: an error of the transaction or the outcome its body committed. -/
def seenByCaller (result : Except StoreError (Except StoreError Answer) × Db) :
    Except StoreError Answer × Db :=
  (result.1.bind id, result.2)

/-- The entry is what `inTx` does. -/
def Entry.Ran (sha : Sha256) (entry : Entry) : Prop :=
  seenByCaller (inTx (entry.call.body sha) entry.first entry.second entry.before) =
    (entry.outcome, entry.after)

/-- The states of a run, newest first; `entries` is newest first as well. -/
def states (entries : List Entry) (db : Db) : List Db := db :: entries.map (·.before)

/-- The random source: the rows a step adds to the token tables are new to the run. -/
structure Fresh (history : List Db) (before after : Db) : Prop where
  codes : FreshTable AuthorizationCode.id AuthorizationCode.codeHash Db.authorizationCodes history
    before after
  families : FreshTable RefreshTokenFamily.id RefreshTokenFamily.id Db.refreshTokenFamilies history
    before after
  generations : FreshTable RefreshToken.id RefreshToken.tokenHash Db.refreshTokens history before
    after
  accesses : FreshTable AccessToken.id AccessToken.jtiHash Db.accessTokens history before after

theorem fresh_iff {history : List Db} {before after : Db} :
    (FreshTable AuthorizationCode.id AuthorizationCode.codeHash Db.authorizationCodes history before
        after ∧
      FreshTable RefreshTokenFamily.id RefreshTokenFamily.id Db.refreshTokenFamilies history before
        after ∧
      FreshTable RefreshToken.id RefreshToken.tokenHash Db.refreshTokens history before after ∧
      FreshTable AccessToken.id AccessToken.jtiHash Db.accessTokens history before after) ↔
      Fresh history before after :=
  ⟨fun ⟨codes, families, generations, accesses⟩ => ⟨codes, families, generations, accesses⟩,
    fun ⟨codes, families, generations, accesses⟩ => ⟨codes, families, generations, accesses⟩⟩

instance (history : List Db) (before after : Db) : Decidable (Fresh history before after) :=
  decidable_of_iff _ fresh_iff

/-- The runs of the system from the empty database. -/
inductive Run (sha : Sha256) (zone : Zone) : List Entry → Db → Prop where
  | start : Run sha zone [] (Db.empty zone)
  | step {past : List Entry} {entry : Entry} (ran : Run sha zone past entry.before)
      (took : entry.Ran sha)
      (read : ∀ seen ∈ entry.call.reads, seen ∈ states past entry.before)
      (fresh : Fresh (states past entry.before) entry.before entry.after) :
      Run sha zone (entry :: past) entry.after

/-- A time no request of the run is later than. -/
def NotBefore (entries : List Entry) (now : Time) : Prop :=
  ∀ entry ∈ entries, entry.call.now ≤ now

/-- A step either ran its body to the end and committed it, or reported an error and changed
nothing. -/
theorem Entry.Ran.cases {sha : Sha256} {entry : Entry} (took : entry.Ran sha) :
    (entry.call.body sha).run exec entry.before = .ok (entry.outcome, entry.after) ∨
      (∃ error, entry.outcome = .error error) ∧ entry.after = entry.before := by
  simp only [Entry.Ran, seenByCaller, Prod.mk.injEq] at took
  rcases inTx_cases (entry.call.body sha) entry.first entry.second entry.before with
    ⟨value, after, ended, ran⟩ | ⟨error, ended⟩
  · rw [ended] at took
    left
    rw [ran, ← took.1, ← took.2]
    rfl
  · rw [ended] at took
    exact Or.inr ⟨⟨error, took.1.symm⟩, took.2.symm⟩

end OneIssuer
