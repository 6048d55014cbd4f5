import OneIssuer.Soundness
import OneIssuer.System

/-!
# Footprints

Which tables an operation can write, read off its statements. `Stmt.kind` sorts the statements by
what they can do to the authority of a token: most are `quiet`, which includes revocations, because
a revocation only moves a row along. `Call.kinds` names the kinds each call can reach, and
`Call.body_within` is the proof for all calls.

`Db.Stayed` says what follows for the two states around a run that stays within some kinds.
-/

set_option autoImplicit false

namespace OneIssuer

open Relational

/-! ## Kinds of statements -/

/-- What a statement can do beyond moving existing rows along. -/
inductive Kind where
  /-- Reads, locks, revocations and tables no token depends on. -/
  | quiet
  /-- Changes of the status of a user or a client. -/
  | status
  /-- Inserts of login sessions. -/
  | session
  /-- Inserts of browser transactions. -/
  | flow
  /-- Writes of logout transactions. -/
  | logout
  /-- Writes of consent grants. -/
  | grant
  /-- Writes of authorization codes. -/
  | code
  /-- Inserts of refresh families. -/
  | family
  /-- Writes of generations. -/
  | generation
  /-- Inserts of access tokens. -/
  | access
  /-- Events that exist at most once for a target. -/
  | marked
  /-- Batches that delete sessions or token rows. -/
  | retire
  /-- Batches that delete transactions of the browser flows. -/
  | purge
  deriving DecidableEq, Repr

/-- The kind of a table statement that may lock and update freely but not insert. -/
def insertKind {ρ χ β : Type} (kind : Kind) : TableStmt ρ χ β → Kind
  | .insert _ => kind
  | _ => .quiet

/-- The kind of a table statement that may lock freely but not write. -/
def writeKind {ρ χ β : Type} (kind : Kind) : TableStmt ρ χ β → Kind
  | .lock _ => .quiet
  | _ => kind

/-- The kind of a statement. -/
def Stmt.kind {β : Type} : Stmt β → Kind
  | .users (.update _ (.profile ..)) => .status
  | .clients (.update ..) => .status
  | .loginSessions s => insertKind .session s
  | .authTransactions s => insertKind .flow s
  | .logoutTransactions s => writeKind .logout s
  | .consentGrants s => writeKind .grant s
  | .authorizationCodes s => writeKind .code s
  | .refreshTokenFamilies s => insertKind .family s
  | .refreshTokens s => writeKind .generation s
  | .accessTokens s => insertKind .access s
  | .auditEvents (.insert row) => if row.oncePerTarget.isSome then .marked else .quiet
  | .retirePreAuthSessions .. => .retire
  | .retireLoginSessions .. => .retire
  | .retireAuthorizationCodes .. => .retire
  | .retireAccessTokens .. => .retire
  | .retireRefreshTokens .. => .retire
  | .retireRefreshTokenFamilies .. => .retire
  | .retireAuthTransactions .. => .purge
  | .retireLogoutTransactions .. => .purge
  | _ => .quiet

/-- A body all of whose statements have one of these kinds. -/
def Tx.Within {α : Type} (kinds : List Kind) (body : Tx α) : Prop :=
  body.Only fun _ statement => statement.kind ∈ kinds

namespace Tx.Within

variable {α β ρ : Type} {kinds : List Kind} {operation : String}

theorem bind {first : Tx α} {rest : α → Tx β} (reached : first.Within kinds)
    (continued : ∀ value, (rest value).Within kinds) : Tx.Within kinds (first >>= rest) :=
  Program.Only.bind reached continued

@[simp] theorem pure (value : α) : Tx.Within kinds (Pure.pure value) := Program.only_pure value

@[simp] theorem fail (error : StoreError) : Tx.Within kinds (Program.fail error : Tx α) :=
  Program.only_fail error

@[simp] theorem require (condition : Bool) (error : StoreError) :
    Tx.Within kinds (Program.require condition error) := Program.only_require condition error

theorem check {condition : Bool} {error : StoreError} {rest : Unit → Tx β}
    (continued : (rest ()).Within kinds) : Tx.Within kinds (Program.require condition error >>= rest) :=
  .bind (require condition error) fun _ => continued

@[simp] theorem need (row : Option α) (error : StoreError) :
    Tx.Within kinds (Program.need row error) := Program.only_need row error

@[simp] theorem ofExcept (outcome : Except StoreError α) :
    Tx.Within kinds (Program.ofExcept outcome) := Program.only_ofExcept outcome

theorem each {body : α → Tx Unit} (reached : ∀ item, (body item).Within kinds) (items : List α) :
    Tx.Within kinds (Program.each body items) := Program.Only.each reached items

theorem query {statement : Stmt β} (allowed : statement.kind ∈ kinds) :
    (Tx.query operation statement).Within kinds := (Program.only_call _ _).mpr allowed

theorem write {wrap : PgError → StoreError} {statement : Stmt β} (allowed : statement.kind ∈ kinds) :
    (Store.write wrap statement).Within kinds := (Program.only_call _ _).mpr allowed

theorem queryOne {statement : Stmt (List ρ)} (allowed : statement.kind ∈ kinds) :
    (Tx.queryOne operation statement).Within kinds := by
  unfold Tx.queryOne
  exact .bind (query allowed) fun _ => .pure _

theorem queryRow {absent : StoreError} {statement : Stmt (List ρ)}
    (allowed : statement.kind ∈ kinds) :
    (Tx.queryRow operation absent statement).Within kinds := by
  unfold Tx.queryRow
  exact .bind (queryOne allowed) fun _ => .need _ _

theorem whenRow {statement : Stmt (List ρ)} {rest : ρ → Tx Unit}
    (allowed : statement.kind ∈ kinds) (continued : ∀ row, (rest row).Within kinds) :
    (Tx.whenRow operation statement rest).Within kinds := by
  unfold Tx.whenRow
  refine .bind (queryOne allowed) fun row => ?_
  cases row with
  | none => exact .pure _
  | some row => exact continued row

theorem onlyIf {condition : Bool} {rest : Tx Unit} (continued : rest.Within kinds) :
    (Tx.onlyIf condition rest).Within kinds := by
  unfold Tx.onlyIf
  split
  · exact continued
  · exact .pure _

theorem ite {condition : Prop} [Decidable condition] {yes no : Tx α} (left : yes.Within kinds)
    (right : no.Within kinds) : (if condition then yes else no).Within kinds := by
  split
  · exact left
  · exact right

end Tx.Within

/-! ## Shared steps -/

namespace Store

variable {kinds : List Kind} (quiet : .quiet ∈ kinds)

include quiet

theorem createAuditEvent_kind {row : AuditEvent}
    (allowed : row.oncePerTarget ≠ none → .marked ∈ kinds) :
    (Queries.createAuditEvent row).kind ∈ kinds := by
  cases once : row.oncePerTarget with
  | none => simpa [Queries.createAuditEvent, Stmt.kind, once] using quiet
  | some key => simpa [Queries.createAuditEvent, Stmt.kind, once] using allowed (by simp [once])

theorem insertAudit_within {event : Audit.Event}
    (allowed : event.row.oncePerTarget ≠ none → .marked ∈ kinds) :
    (insertAudit event).Within kinds := by
  unfold insertAudit
  exact .check <| .query (createAuditEvent_kind quiet allowed)

theorem insertNewAudit_within {build : Uuid → Audit.Event}
    (allowed : ∀ id, (build id).row.oncePerTarget ≠ none → .marked ∈ kinds) :
    (insertNewAudit build).Within kinds := by
  unfold insertNewAudit
  exact .bind (.query quiet) fun id =>
    .check <| insertAudit_within quiet (allowed id)

/-- Events the services build are ordinary. -/
theorem serviceAudit_within (event : Audit.ServiceEvent) :
    (insertAudit event.event).Within kinds :=
  insertAudit_within quiet fun once => absurd (AuditEvent.oncePerTarget_eq_none event.ordinary) once

theorem insertProtocolAudit_within {type : Audit.EventType}
    (ordinary : type ∉ [.authorizationCodeExchangeRejected, .refreshTokenExchangeRejected,
      .refreshTokenReuseDetected]) (result : Audit.Result) (actor : Uuid)
    (targetType : Audit.TargetType) (target : Uuid) (requestID : Audit.RequestID)
    (changed : List String) (now : Time) :
    (insertProtocolAudit type result actor targetType target requestID changed now).Within
      kinds := by
  unfold insertProtocolAudit
  exact insertNewAudit_within quiet fun id once => absurd (AuditEvent.oncePerTarget_eq_none ordinary) once

theorem insertMarkedAudit_within (marked : .marked ∈ kinds)
    (type : Audit.EventType) (result : Audit.Result) (actor : Uuid) (targetType : Audit.TargetType)
    (target : Uuid) (requestID : Audit.RequestID) (changed : List String) (now : Time) :
    (insertProtocolAudit type result actor targetType target requestID changed now).Within
      kinds := by
  unfold insertProtocolAudit
  exact insertNewAudit_within quiet fun _ _ => marked

theorem loadClientChildren_within (row : ClientRow) :
    (loadClientChildren row).Within kinds := by
  unfold loadClientChildren
  exact .bind (.query quiet) fun _ => .bind (.query quiet) fun _ =>
    .bind (.query quiet) fun _ => .pure _

theorem lockClient_within (operation : String) (absent : StoreError)
    (id : Uuid) : (lockClient operation absent id).Within kinds := by
  unfold lockClient
  exact .bind (.queryRow quiet) (loadClientChildren_within quiet)

omit quiet in
theorem createLoginSession_within (session : .session ∈ kinds) (record : SessionRecord) :
    (createLoginSession record).Within kinds := .query session

theorem cascade_within (families accesses : Queries.Selector) (now : Time)
    (reason : RevokeReason) (lockFamilies lockAccesses revokeFamilies revokeAccesses : String) :
    (cascade families accesses now reason lockFamilies lockAccesses revokeFamilies
      revokeAccesses).Within kinds := by
  unfold cascade
  exact .bind (.query quiet) fun _ => .bind (.query quiet) fun _ =>
    .bind (.query quiet) fun _ => .bind (.query quiet) fun _ => .pure _

theorem revokeSessionBindingsCascade_within (bindings : List Uuid)
    (now : Time) (reason : RevokeReason) :
    (revokeSessionBindingsCascade bindings now reason).Within kinds := by
  unfold revokeSessionBindingsCascade
  exact .ite (.pure _) (.check <| cascade_within quiet ..)

theorem revokeSessionBindingCascade_within (binding : Uuid) (now : Time)
    (reason : RevokeReason) : (revokeSessionBindingCascade binding now reason).Within kinds := by
  unfold revokeSessionBindingCascade
  exact .check <| revokeSessionBindingsCascade_within quiet ..

/-! ## Sessions -/

theorem lockAndCheckIdentifiers_within (user : User) (excludeID : Uuid) :
    (lockAndCheckIdentifiers user excludeID).Within kinds := by
  unfold lockAndCheckIdentifiers
  refine .bind (.each (fun _ => .query quiet) _) fun _ => .each (fun _ => ?_) _
  refine .bind (.query ?_) fun _ => .require _ _
  split <;> exact quiet

theorem lockAndCheckRegistration_within (user : User) :
    (lockAndCheckRegistration user).Within kinds := by
  unfold lockAndCheckRegistration
  refine .bind (.each (fun _ => .query quiet) _) fun _ => .each (fun _ => ?_) _
  exact .bind (.query quiet) fun _ => .require _ _

theorem revokeExistingSession_within (operation : String)
    (existing : LoginSession) (now : Time) (reason : RevokeReason) (actor : Uuid)
    (requestID : Audit.RequestID) :
    (revokeExistingSession operation existing now reason actor requestID).Within kinds := by
  unfold revokeExistingSession
  refine .bind (.queryRow quiet) fun _ => insertNewAudit_within quiet fun id once => ?_
  exact absurd (AuditEvent.oncePerTarget_eq_none (show Audit.EventType.sessionRevoked ∉ _ by decide)) once

theorem switchRegistration_within (commit : RegisterCommit) :
    (switchRegistration commit).Within kinds := by
  unfold switchRegistration
  refine .ite (.pure _) (.whenRow quiet fun _ => .onlyIf ?_)
  exact .bind (revokeSessionBindingCascade_within quiet ..) fun _ =>
    revokeExistingSession_within quiet ..

theorem consumeFlowTransaction_within (operation : String)
    (consume : Bool) (now : Time) (id : Uuid) :
    (consumeFlowTransaction operation consume now id).Within kinds := by
  unfold consumeFlowTransaction
  exact .ite (.bind (.queryRow quiet) fun _ => .pure _) (.pure _)

theorem commitRegistration_within (session : .session ∈ kinds)
    (commit : RegisterCommit) : (commitRegistration commit).Within kinds := by
  unfold commitRegistration
  refine .check <| .bind (lockAndCheckRegistration_within quiet _) fun _ =>
    .bind (.write quiet) fun _ => .bind (.write quiet) fun _ =>
    .bind (switchRegistration_within quiet _) fun _ =>
    .bind (createLoginSession_within session _) fun _ => .bind (.queryRow quiet) fun _ =>
    .bind (consumeFlowTransaction_within quiet ..) fun _ => .each (fun event => ?_) _
  exact serviceAudit_within quiet event

theorem replaceSession_within (commit : LoginCommit) :
    (replaceSession commit).Within kinds := by
  unfold replaceSession
  refine .ite (.pure _) (.bind (.queryOne quiet) fun found => ?_)
  cases found with
  | none => exact .pure _
  | some existing =>
    refine .ite ?_ (.pure _)
    unfold replaceActiveSession
    refine .ite (.bind (revokeExistingSession_within quiet ..) fun _ => .pure _) ?_
    exact .bind (revokeSessionBindingCascade_within quiet ..) fun _ =>
      .bind (revokeExistingSession_within quiet ..) fun _ => .pure _

theorem commitLogin_within (session : .session ∈ kinds)
    (commit : LoginCommit) : (commitLogin commit).Within kinds := by
  unfold commitLogin
  refine .check <| .bind (.queryRow quiet) fun _ =>
    .check <| .bind (.queryRow quiet) fun _ =>
    .bind (consumeFlowTransaction_within quiet ..) fun _ =>
    .bind (replaceSession_within quiet _) fun _ => .bind ?_ fun _ =>
    .bind (.query quiet) fun _ => .bind (createLoginSession_within session _) fun _ =>
    .bind (.each (serviceAudit_within quiet) _) fun _ => .pure _
  unfold rehashCredential
  exact .ite (.pure _) (.bind (.query quiet) fun _ => .pure _)

theorem revokeSessionRow_within (operation : String) (absent : StoreError)
    (now : Time) (reason : Option RevokeReason) (id : Uuid) :
    (revokeSessionRow operation absent now reason id).Within kinds := by
  unfold revokeSessionRow
  exact .bind (.queryRow quiet) fun _ => .pure _

/-- The common part of the three revocations of one session: the cascade of its binding, the row,
the event. -/
theorem revokeOneSession_within (binding : Uuid) (now : Time)
    (familyReason : RevokeReason) (operation : String) (absent : StoreError)
    (reason : Option RevokeReason) (id : Uuid) (event : Audit.ServiceEvent) :
    Tx.Within kinds (do
      revokeSessionBindingCascade binding now familyReason
      revokeSessionRow operation absent now reason id
      insertAudit event.event) :=
  .bind (revokeSessionBindingCascade_within quiet ..) fun _ =>
    .bind (revokeSessionRow_within quiet ..) fun _ => serviceAudit_within quiet event

theorem revokeUserSession_within (userID target : Uuid) (now : Time)
    (event : Audit.ServiceEvent) : (revokeUserSession userID target now event).Within kinds := by
  unfold revokeUserSession
  exact .bind (.queryRow quiet) fun _ => .check <|
    revokeOneSession_within quiet ..

theorem revokeManagedSession_within (id : Uuid) (now : Time)
    (event : Audit.ServiceEvent) : (revokeManagedSession id now event).Within kinds := by
  unfold revokeManagedSession
  exact .bind (.queryRow quiet) fun _ => .check <|
    revokeOneSession_within quiet ..

theorem revokeSessionByHash_within (hash : Bytes) (now : Time)
    (reason : Option RevokeReason) (event : Audit.ServiceEvent) :
    (revokeSessionByHash hash now reason event).Within kinds := by
  unfold revokeSessionByHash
  exact .bind (.queryRow quiet) fun _ => .check <|
    revokeOneSession_within quiet ..

theorem revokeSessions_within (operation : String)
    (sessions : List LoginSession) (now : Time) (familyReason reason : RevokeReason) :
    (revokeSessions operation sessions now familyReason reason).Within kinds := by
  unfold revokeSessions
  exact .bind (revokeSessionBindingsCascade_within quiet ..) fun _ =>
    .bind (.each (fun _ => revokeSessionRow_within quiet ..) _) fun _ => .pure _

theorem revokeOtherUserSessions_within (userID current : Uuid)
    (now : Time) (event : Audit.ServiceEvent) :
    (revokeOtherUserSessions userID current now event).Within kinds := by
  unfold revokeOtherUserSessions
  exact .bind (.query quiet) fun _ => .bind (revokeSessions_within quiet ..) fun _ =>
    .bind (serviceAudit_within quiet event) fun _ => .pure _

theorem revokeAllManagedUserSessions_within (userID : Uuid) (now : Time)
    (event : Audit.ServiceEvent) :
    (revokeAllManagedUserSessions userID now event).Within kinds := by
  unfold revokeAllManagedUserSessions
  exact .bind (.queryRow quiet) fun _ => .bind (.query quiet) fun _ =>
    .bind (revokeSessions_within quiet ..) fun _ =>
    .bind (serviceAudit_within quiet event) fun _ => .pure _

/-! ## Authorization -/

theorem expireAuthTransactions_within (now : Time) (locked : Uuid → Bool) :
    (expireAuthTransactions now locked).Within kinds := by
  unfold expireAuthTransactions
  refine .bind (.query quiet) fun _ => .bind (.each (fun _ => ?_) _) fun _ => .pure _
  refine insertNewAudit_within quiet fun id once => absurd (AuditEvent.oncePerTarget_eq_none ?_) once
  exact show Audit.EventType.authorizationTransactionExpired ∉ _ by decide

theorem lockAndValidateAuthorizationClient_within
    (transaction : AuthTransaction) :
    (lockAndValidateAuthorizationClient transaction).Within kinds := by
  unfold lockAndValidateAuthorizationClient
  exact .bind (.need _ _) fun _ => .bind (lockClient_within quiet ..) fun _ =>
    .check <| .pure _

theorem lockAndApplyConsent_within (grant : .grant ∈ kinds)
    (commit : IssueCommit) (client : Client) (requested : List String) :
    (lockAndApplyConsent commit client requested).Within kinds := by
  unfold lockAndApplyConsent
  refine .bind (.queryOne quiet) fun found => ?_
  cases found with
  | none =>
    exact .check <| .bind (.query grant) fun _ => .pure _
  | some stored =>
    refine .bind (.need _ _) fun _ => .check <| .ite ?_ ?_
    · exact .check <| .bind (.queryRow grant) fun _ => .pure _
    · unfold applyActiveConsent
      refine .ite (.check <| .pure _) (.ite (.pure _) ?_)
      exact .bind (.queryRow grant) fun _ => .pure _

theorem auditIssue_within (commit : IssueCommit)
    (transactionID grantID : Uuid) (outcome : GrantOutcome) :
    (auditIssue commit transactionID grantID outcome).Within kinds := by
  unfold auditIssue
  refine .bind ?_ fun _ => .bind (insertProtocolAudit_within quiet (by decide) ..) fun _ =>
    .bind (insertProtocolAudit_within quiet (by decide) ..) fun _ =>
    insertProtocolAudit_within quiet (by decide) ..
  cases outcome with
  | unchanged => exact .pure _
  | created => exact insertProtocolAudit_within quiet (by decide) ..
  | expanded => exact insertProtocolAudit_within quiet (by decide) ..
  | reactivated => exact insertProtocolAudit_within quiet (by decide) ..

theorem issueAuthorizationCode_within (grant : .grant ∈ kinds)
    (code : .code ∈ kinds) (commit : IssueCommit) :
    (issueAuthorizationCode commit).Within kinds := by
  unfold issueAuthorizationCode
  exact .check <| .bind (.queryRow quiet) fun _ => .bind (.ofExcept _) fun _ =>
    .bind (.queryRow quiet) fun _ => .check <|
    .bind (lockAndValidateAuthorizationClient_within quiet _) fun _ => .bind (.need _ _) fun _ =>
    .bind (lockAndApplyConsent_within quiet grant ..) fun _ =>
    .bind (.query code) fun _ => .bind (.queryRow quiet) fun _ =>
    .bind (auditIssue_within quiet ..) fun _ => .pure _

theorem denyAuthorization_within (commit : DenyCommit) :
    (denyAuthorization commit).Within kinds := by
  unfold denyAuthorization
  exact .check <| .bind (.queryRow quiet) fun _ => .bind (.ofExcept _) fun _ =>
    .bind (.queryRow quiet) fun _ => .check <|
    .bind (lockAndValidateAuthorizationClient_within quiet _) fun _ =>
    .bind (.queryRow quiet) fun _ =>
    .bind (insertProtocolAudit_within quiet (by decide) ..) fun _ =>
    insertProtocolAudit_within quiet (by decide) ..

theorem revokeCurrentUserGrant_within (grant : .grant ∈ kinds)
    (input : RevokeInput) : (revokeCurrentUserGrant input).Within kinds := by
  unfold revokeCurrentUserGrant
  refine .bind (.queryRow quiet) fun _ => .bind (.queryRow quiet) fun _ =>
    .bind (.queryRow quiet) fun _ => .ite (.pure _) (.bind ?_ fun _ => .pure _)
  unfold revokeLockedGrant
  exact .bind (.query quiet) fun _ => .bind (.query quiet) fun _ =>
    .bind (.queryRow grant) fun _ => .bind (.query quiet) fun _ =>
    .bind (.query quiet) fun _ =>
    .bind (insertProtocolAudit_within quiet (by decide) ..) fun _ => .pure _

/-! ## Administration -/

theorem createIdentity_within (userText credentialText : String)
    (prepared : PreparedUser) :
    (createIdentity userText credentialText prepared).Within kinds := by
  unfold createIdentity
  exact .bind (.write quiet) fun _ => .write quiet

theorem bootstrapAdmin_within (prepared : PreparedUser)
    (event : Audit.ServiceEvent) : (bootstrapAdmin prepared event).Within kinds := by
  unfold bootstrapAdmin
  exact .bind (.query quiet) fun _ => .bind (.query quiet) fun _ =>
    .check <| .bind (lockAndCheckIdentifiers_within quiet ..) fun _ =>
    .bind (createIdentity_within quiet ..) fun _ => serviceAudit_within quiet event

theorem createManagedUser_within (prepared : PreparedUser)
    (event : Audit.ServiceEvent) : (createManagedUser prepared event).Within kinds := by
  unfold createManagedUser
  exact .bind (lockAndCheckIdentifiers_within quiet ..) fun _ =>
    .bind (createIdentity_within quiet ..) fun _ => serviceAudit_within quiet event

theorem protectLastAdmin_within (current updated : User) :
    (protectLastAdmin current updated).Within kinds := by
  unfold protectLastAdmin
  exact .ite (.bind (.query quiet) fun _ => .require _ _) (.pure _)

theorem lockUserSessions_within (commit : UpdateUserCommit) :
    (lockUserSessions commit).Within kinds := by
  unfold lockUserSessions
  exact .ite (.query quiet) (.pure _)

theorem disableUserAuthority_within (updated : User) :
    (disableUserAuthority updated).Within kinds := by
  unfold disableUserAuthority
  exact .ite (cascade_within quiet ..) (.pure _)

theorem revokeChangedUserSessions_within (commit : UpdateUserCommit)
    (sessions : List LoginSession) :
    (revokeChangedUserSessions commit sessions).Within kinds := by
  unfold revokeChangedUserSessions
  refine .ite (.bind (revokeSessions_within quiet ..) fun _ => ?_) (.pure _)
  cases commit.sessionEvent with
  | none => exact .pure _
  | some event => exact serviceAudit_within quiet event

theorem updateManagedUser_within (status : .status ∈ kinds)
    (commit : UpdateUserCommit) : (updateManagedUser commit).Within kinds := by
  unfold updateManagedUser
  exact .bind (.query quiet) fun _ => .bind (.queryRow quiet) fun _ =>
    .bind (protectLastAdmin_within quiet ..) fun _ =>
    .bind (lockAndCheckIdentifiers_within quiet ..) fun _ =>
    .bind (.write status) fun _ => .bind (.need _ _) fun _ =>
    .bind (lockUserSessions_within quiet _) fun _ =>
    .bind (disableUserAuthority_within quiet _) fun _ =>
    .bind (revokeChangedUserSessions_within quiet ..) fun _ =>
    .bind (serviceAudit_within quiet _) fun _ => .pure _

theorem replaceClientChildren_within (value : Client) (replace : Bool) :
    (replaceClientChildren value replace).Within kinds := by
  have inserts : (insertClientChildren value).Within kinds := by
    unfold insertClientChildren
    exact .bind (.each (fun _ => .write quiet) _) fun _ =>
      .bind (.each (fun _ => .write quiet) _) fun _ =>
      .each (fun _ => .write quiet) _
  unfold replaceClientChildren
  exact .ite (.bind (.query quiet) fun _ => .bind (.query quiet) fun _ =>
    .bind (.query quiet) fun _ => inserts) inserts

theorem createClient_within (value : Client)
    (secret : Option SecretRecord) (event : Audit.ServiceEvent) :
    (createClient value secret event).Within kinds := by
  unfold createClient
  refine .bind (.write quiet) fun _ =>
    .bind (replaceClientChildren_within quiet ..) fun _ => ?_
  cases secret with
  | none => exact serviceAudit_within quiet event
  | some record =>
    exact .bind (.write quiet) fun _ => serviceAudit_within quiet event

theorem revokeClientAuthority_within (value : Client)
    (currentScopes : List String) : (revokeClientAuthority value currentScopes).Within kinds := by
  unfold revokeClientAuthority
  exact .ite (cascade_within quiet ..) (.ite (cascade_within quiet ..) (.pure _))

theorem updateClient_within (status : .status ∈ kinds) (value : Client)
    (event : Audit.ServiceEvent) : (updateClient value event).Within kinds := by
  unfold updateClient
  exact .bind (.queryRow quiet) fun _ => .bind (.query quiet) fun _ =>
    .bind (.write status) fun _ => .bind (.need _ _) fun _ =>
    .bind (replaceClientChildren_within quiet ..) fun _ =>
    .bind (revokeClientAuthority_within quiet ..) fun _ => serviceAudit_within quiet event

theorem rotateClientSecret_within (id : Uuid) (secret : SecretRecord)
    (now : Time) (event : Audit.ServiceEvent) :
    (rotateClientSecret id secret now event).Within kinds := by
  unfold rotateClientSecret
  exact .bind (.queryRow quiet) fun _ => .check <|
    .bind (.query quiet) fun _ => .bind (.write quiet) fun _ =>
    serviceAudit_within quiet event

/-! ## Logout -/

theorem bindLogoutTransaction_within (logout : .logout ∈ kinds)
    (input : BindInput) : (bindLogoutTransaction input).Within kinds := by
  unfold bindLogoutTransaction
  refine .check <| .bind (.queryRow quiet) fun transaction =>
    .check <| .bind (.queryRow quiet) fun _ => .check <| ?_
  unfold bindLockedLogout
  cases transaction.stage with
  | preConfirm =>
    exact .bind (.query quiet) fun _ => .check <| .queryRow logout
  | boundConfirmable => exact .check <| .queryRow logout
  | confirmed => exact .fail _
  | canceled => exact .fail _

theorem confirmLogout_within (logout : .logout ∈ kinds)
    (input : CompleteInput) (transaction : LogoutTransaction) :
    (confirmLogout input transaction).Within kinds := by
  unfold confirmLogout
  exact .bind (cascade_within quiet ..) fun _ => .bind (.queryRow quiet) fun _ =>
    .bind (.queryRow logout) fun _ =>
    .bind (insertProtocolAudit_within quiet (by decide) ..) fun _ =>
    insertProtocolAudit_within quiet (by decide) ..

theorem completeLogoutTransaction_within (logout : .logout ∈ kinds)
    (input : CompleteInput) : (completeLogoutTransaction input).Within kinds := by
  unfold completeLogoutTransaction
  refine .check <| .bind (.queryRow quiet) fun transaction =>
    .check <| .bind (.queryRow quiet) fun _ => .check <|
    .ite (.bind ?_ fun _ => .pure _) ?_
  · unfold countFailedProof
    exact .ite (.bind (.query logout) fun _ => .pure _) (.pure _)
  · cases input.decision with
    | cancel => exact .bind (.queryRow logout) fun _ => .pure _
    | confirm => exact .bind (confirmLogout_within quiet logout ..) fun _ => .pure _

/-! ## Tokens -/

theorem lockExchangeAuthority_within (sha : Token.Sha256)
    (input : Token.ExchangeInput) (mint : Token.MintFunc) (code : AuthorizationCode) :
    (lockExchangeAuthority sha input mint code).Within kinds := by
  unfold lockExchangeAuthority
  exact .check <| .check <| .bind (.queryRow quiet) fun _ =>
    .check <| .bind (lockClient_within quiet ..) fun _ =>
    .check <| .bind (.need _ _) fun _ => .check <|
    .bind (.queryRow quiet) fun _ => .check <| .bind (.ofExcept _) fun _ =>
    .check <| .pure _

theorem auditExchange_within (input : Token.ExchangeInput)
    (code : AuthorizationCode) (locked : LockedExchange) :
    (auditExchange input code locked).Within kinds := by
  unfold auditExchange
  refine .bind (insertProtocolAudit_within quiet (by decide) ..) fun _ =>
    .bind (insertProtocolAudit_within quiet (by decide) ..) fun _ => ?_
  cases locked.minted.initialRefresh with
  | none => exact .pure _
  | some initial => exact insertProtocolAudit_within quiet (by decide) ..

omit quiet in
theorem exchangeAuthorizationCode_within (sha : Token.Sha256) (input : Token.ExchangeInput)
    (mint : Token.MintFunc) :
    (exchangeAuthorizationCode sha input mint).Within
      [.quiet, .code, .family, .generation, .access, .marked] := by
  have quiet : Kind.quiet ∈ [Kind.quiet, .code, .family, .generation, .access, .marked] := by simp
  unfold exchangeAuthorizationCode
  refine .check <| .bind (.queryRow quiet) fun code => .ite ?_ ?_
  · refine .bind ?_ fun _ => .pure _
    unfold recordReplay
    exact .bind (.query quiet) fun _ =>
      .ite (.pure _) (insertMarkedAudit_within quiet (by simp) ..)
  · refine .bind (lockExchangeAuthority_within quiet ..) fun locked => .bind ?_ fun _ =>
      .bind (.query (by simp [Queries.createAccessToken, Stmt.kind, insertKind]))
      fun _ => .bind (.queryRow (by simp [Queries.consumeAuthorizationCode, Stmt.kind, writeKind]))
      fun _ => .bind (auditExchange_within quiet ..) fun _ => .pure _
    unfold createInitialRefresh
    cases locked.minted.initialRefresh with
    | none => exact .pure _
    | some initial =>
      exact .bind (.need _ _) fun _ =>
        .bind (.query (by simp [Queries.createRefreshTokenFamily, Stmt.kind, insertKind]))
        fun _ => .query (by simp [Queries.createRefreshToken, Stmt.kind, writeKind])

theorem lockRefreshAuthority_within (input : Token.RefreshInput)
    (candidate : RefreshToken) (candidateFamily : RefreshTokenFamily) :
    (lockRefreshAuthority input candidate candidateFamily).Within kinds := by
  unfold lockRefreshAuthority
  exact .bind (.queryRow quiet) fun _ => .check <|
    .bind (lockClient_within quiet ..) fun _ => .check <|
    .bind (.queryRow quiet) fun _ => .check <| .bind (.queryRow quiet) fun _ =>
    .check <| .bind (.queryRow quiet) fun _ => .check <|
    .pure _

omit quiet in
theorem exchangeRefreshToken_within (sha : Token.Sha256) (input : Token.RefreshInput)
    (mint : Token.RefreshMintFunc) (candidate : RefreshToken)
    (candidateFamily : RefreshTokenFamily) :
    (exchangeRefreshToken sha input mint candidate candidateFamily).Within
      [.quiet, .generation, .access, .marked] := by
  have quiet : Kind.quiet ∈ [Kind.quiet, .generation, .access, .marked] := by simp
  unfold exchangeRefreshToken
  refine .check <| .bind (lockRefreshAuthority_within quiet ..) fun locked =>
    .ite (.bind ?_ fun _ => .pure _) (.bind ?_ fun _ => .pure _)
  · unfold revokeReusedFamily
    exact .bind (.queryRow quiet) fun _ => .bind (.query quiet) fun _ =>
      .bind (insertMarkedAudit_within quiet (by simp) ..) fun _ =>
      insertProtocolAudit_within quiet (by decide) ..
  · unfold rotateGeneration
    exact .check <| .bind (.ofExcept _) fun _ => .bind (.ofExcept _) fun _ =>
      .check <|
      .bind (.queryRow (by simp [Queries.consumeRefreshToken, Stmt.kind, writeKind])) fun _ =>
      .bind (.query (by simp [Queries.createRefreshToken, Stmt.kind, writeKind]))
      fun _ =>
      .bind (.query (by simp [Queries.createAccessToken, Stmt.kind, insertKind]))
      fun _ => .bind (insertProtocolAudit_within quiet (by decide) ..) fun _ =>
      .bind (insertProtocolAudit_within quiet (by decide) ..) fun _ => .pure _

theorem revokeLockedAccess_within (lookup : Token.RevocationLookup)
    (candidate : AccessToken) : (revokeLockedAccess lookup candidate).Within kinds := by
  unfold revokeLockedAccess
  exact .whenRow quiet fun _ => .onlyIf (.bind (.queryRow quiet) fun _ =>
    insertProtocolAudit_within quiet (by decide) ..)

theorem revokeAccessCandidate_within (lookup : Token.RevocationLookup)
    (candidate : AccessToken) : (revokeAccessCandidate lookup candidate).Within kinds := by
  unfold revokeAccessCandidate
  refine .whenRow quiet fun _ => .onlyIf (.whenRow quiet fun _ =>
    .bind (loadClientChildren_within quiet _) fun _ => .onlyIf (.whenRow quiet fun _ =>
    .onlyIf ?_))
  cases candidate.refreshFamilyID with
  | none => exact revokeLockedAccess_within quiet ..
  | some familyID =>
    exact .whenRow quiet fun _ => .onlyIf (revokeLockedAccess_within quiet ..)

theorem revokeRefreshCandidate_within (lookup : Token.RevocationLookup)
    (candidate : RefreshToken) (candidateFamily : RefreshTokenFamily) :
    (revokeRefreshCandidate lookup candidate candidateFamily).Within kinds := by
  unfold revokeRefreshCandidate
  refine .whenRow quiet fun _ => .onlyIf (.whenRow quiet fun _ =>
    .bind (loadClientChildren_within quiet _) fun _ => .onlyIf (.whenRow quiet fun _ =>
    .onlyIf (.whenRow quiet fun _ => .onlyIf (.whenRow quiet fun _ => .onlyIf ?_))))
  unfold revokeLockedFamily
  exact .bind (.queryRow quiet) fun _ => .bind (.query quiet) fun _ =>
    insertProtocolAudit_within quiet (by decide) ..

end Store

/-! ## Calls -/

/-- The kinds of statements a call can reach. -/
def Call.kinds : Call → List Kind
  | .commitRegistration _ => [.quiet, .session]
  | .commitLogin _ => [.quiet, .session]
  | .createAuthTransaction .. => [.quiet, .flow]
  | .issueAuthorizationCode _ => [.quiet, .grant, .code]
  | .revokeCurrentUserGrant _ => [.quiet, .grant]
  | .updateManagedUser _ => [.quiet, .status]
  | .updateClient _ _ => [.quiet, .status]
  | .exchangeAuthorizationCode _ _ => [.quiet, .code, .family, .generation, .access, .marked]
  | .exchangeRefreshToken .. => [.quiet, .generation, .access, .marked]
  | .createLogoutTransaction _ => [.quiet, .logout]
  | .bindLogoutTransaction _ => [.quiet, .logout]
  | .completeLogoutTransaction _ => [.quiet, .logout]
  | .cleanupAuthTransactions .. => [.purge]
  | .cleanupLogoutTransactions .. => [.purge]
  | .cleanupSessions .. => [.retire]
  | .cleanupProtocolArtifacts .. => [.retire]
  | .cleanupRefreshArtifacts .. => [.retire]
  | _ => [.quiet]

theorem quietly_within {α : Type} {kinds : List Kind} {body : Tx α} (reached : body.Within kinds) :
    (quietly body).Within kinds := .bind reached fun _ => .pure _

theorem withTokens_within {kinds : List Kind} {body : Tx (Except StoreError Token.Response)}
    (reached : body.Within kinds) : (withTokens body).Within kinds := .bind reached fun _ => .pure _

/-- Every call stays within its kinds. -/
theorem Call.body_within (sha : Token.Sha256) (call : Call) :
    (call.body sha).Within call.kinds := by
  have quiet : ∀ rest : List Kind, Kind.quiet ∈ Kind.quiet :: rest := fun _ => List.mem_cons_self
  cases call with
  | createPreAuth record => exact quietly_within (.query (quiet _))
  | reservePreAuthAttempt id now maximum =>
    exact quietly_within (.bind (.queryRow (quiet _)) fun _ => .pure _)
  | appendAudit event => exact quietly_within (Store.serviceAudit_within (quiet _) event)
  | commitRegistration commit =>
    exact quietly_within (Store.commitRegistration_within (quiet _) (by simp) _)
  | commitLogin commit =>
    exact .bind (Store.commitLogin_within (quiet _) (by simp) _) fun _ => .pure _
  | touchLoginSession id lastSeen idleExpires =>
    exact quietly_within (.bind (.query (quiet _)) fun _ => .pure _)
  | rotateSessionCSRF id hash expires now =>
    exact quietly_within (.bind (.query (quiet _)) fun _ => .pure _)
  | revokeUserSession userID target now event =>
    exact quietly_within (Store.revokeUserSession_within (quiet _) ..)
  | revokeManagedSession id now event =>
    exact quietly_within (Store.revokeManagedSession_within (quiet _) ..)
  | revokeSessionByHash hash now reason event =>
    exact quietly_within (Store.revokeSessionByHash_within (quiet _) ..)
  | revokeOtherUserSessions userID current now event =>
    exact quietly_within (Store.revokeOtherUserSessions_within (quiet _) ..)
  | revokeAllManagedUserSessions userID now event =>
    exact quietly_within (Store.revokeAllManagedUserSessions_within (quiet _) ..)
  | cleanupSessions preAuthCutoff retiredCutoff now locked =>
    exact quietly_within (.bind (.query List.mem_cons_self) fun _ =>
      .bind (.query List.mem_cons_self) fun _ => .pure _)
  | createAuthTransaction transaction event =>
    exact quietly_within (.bind (.query (.tail _ (.head _))) fun _ =>
      Store.serviceAudit_within (quiet _) event)
  | consumeAuthTransaction id now event =>
    exact quietly_within (.bind (.queryRow (quiet _)) fun _ =>
      .bind (Store.serviceAudit_within (quiet _) event) fun _ => .pure _)
  | rejectAuthTransaction id reason now event =>
    exact quietly_within (.bind (.queryRow (quiet _)) fun _ =>
      .bind (Store.serviceAudit_within (quiet _) event) fun _ => .pure _)
  | expireAuthTransactions now locked =>
    exact quietly_within (Store.expireAuthTransactions_within (quiet _) ..)
  | cleanupAuthTransactions cutoff now locked =>
    exact quietly_within (.query List.mem_cons_self)
  | issueAuthorizationCode commit =>
    exact quietly_within
      (Store.issueAuthorizationCode_within (quiet _) (by simp) (by simp) _)
  | denyAuthorization commit => exact quietly_within (Store.denyAuthorization_within (quiet _) _)
  | revokeCurrentUserGrant input =>
    exact quietly_within (Store.revokeCurrentUserGrant_within (quiet _) (by simp) _)
  | bootstrapAdmin prepared event =>
    exact quietly_within (Store.bootstrapAdmin_within (quiet _) ..)
  | createManagedUser prepared event =>
    exact quietly_within (Store.createManagedUser_within (quiet _) ..)
  | updateManagedUser commit =>
    exact quietly_within (Store.updateManagedUser_within (quiet _) (by simp) _)
  | createClient value secret event =>
    exact quietly_within (Store.createClient_within (quiet _) ..)
  | updateClient value event =>
    exact quietly_within (Store.updateClient_within (quiet _) (by simp) ..)
  | rotateClientSecret id secret now event =>
    exact quietly_within (Store.rotateClientSecret_within (quiet _) ..)
  | createLogoutTransaction value =>
    exact quietly_within (.check <| .query (.tail _ (.head _)))
  | bindLogoutTransaction input =>
    exact quietly_within (Store.bindLogoutTransaction_within (quiet _) (by simp) _)
  | completeLogoutTransaction input =>
    exact .bind (Store.completeLogoutTransaction_within (quiet _) (by simp) _) fun _ =>
      .pure _
  | cleanupLogoutTransactions now terminalCutoff locked =>
    exact quietly_within (.query List.mem_cons_self)
  | exchangeAuthorizationCode input mint =>
    exact withTokens_within (Store.exchangeAuthorizationCode_within sha input mint)
  | exchangeRefreshToken input mint seenGeneration seenFamily =>
    refine withTokens_within ?_
    unfold refreshByHash
    split
    · exact .fail _
    · exact Store.exchangeRefreshToken_within ..
  | revokeAccessToken lookup seen =>
    refine quietly_within ?_
    unfold revokeAccessByHash
    split
    · exact .pure _
    · exact Store.revokeAccessCandidate_within (quiet _) ..
  | revokeRefreshToken lookup seenGeneration seenFamily =>
    refine quietly_within ?_
    unfold revokeRefreshByHash
    split
    · exact .pure _
    · exact Store.revokeRefreshCandidate_within (quiet _) ..
  | cleanupProtocolArtifacts cutoff now locked =>
    exact quietly_within (.bind (.query List.mem_cons_self) fun _ =>
      .bind (.query List.mem_cons_self) fun _ => .pure _)
  | cleanupRefreshArtifacts cutoff now locked =>
    exact quietly_within (.bind (.query List.mem_cons_self) fun _ =>
      .bind (.query List.mem_cons_self) fun _ => .pure _)

/-! ## What a run leaves alone -/

/-- A run that avoids a kind leaves the rows of that kind alone, or moves them along. -/
structure Db.Stayed (kinds : List Kind) (before after : Db) : Prop where
  users : .status ∉ kinds →
    ∀ user ∈ before.users, ∃ kept ∈ after.users, kept.id = user.id ∧ kept.status = user.status
  clients : .status ∉ kinds → ∀ client ∈ before.clients,
    ∃ kept ∈ after.clients, kept.id = client.id ∧ kept.status = client.status
  sessions : .session ∉ kinds → Moved SessionContinues before.loginSessions after.loginSessions
  logouts : .logout ∉ kinds → .purge ∉ kinds → after.logoutTransactions = before.logoutTransactions
  grants : .grant ∉ kinds → after.consentGrants = before.consentGrants
  codes : .code ∉ kinds → after.authorizationCodes = before.authorizationCodes
  families : .family ∉ kinds →
    Moved FamilyContinues before.refreshTokenFamilies after.refreshTokenFamilies
  generations : .generation ∉ kinds → after.refreshTokens = before.refreshTokens
  accesses : .access ∉ kinds → Moved AccessContinues before.accessTokens after.accessTokens
  events : .marked ∉ kinds →
    ∀ event ∈ after.auditEvents, event ∈ before.auditEvents ∨ event.oncePerTarget = none

theorem Db.Stayed.refl (kinds : List Kind) (db : Db) : Db.Stayed kinds db db where
  users _ user member := ⟨user, member, rfl, rfl⟩
  clients _ client member := ⟨client, member, rfl, rfl⟩
  sessions _ := moved_refl SessionContinues.refl _
  logouts _ _ := rfl
  grants _ := rfl
  codes _ := rfl
  families _ := moved_refl FamilyContinues.refl _
  generations _ := rfl
  accesses _ := moved_refl AccessContinues.refl _
  events _ _ member := Or.inl member

theorem Db.Stayed.trans {kinds : List Kind} (a b c : Db) (early : Db.Stayed kinds a b)
    (late : Db.Stayed kinds b c) : Db.Stayed kinds a c where
  users avoided user member := by
    obtain ⟨between, inB, sameID, sameStatus⟩ := early.users avoided user member
    obtain ⟨kept, inC, keptID, keptStatus⟩ := late.users avoided between inB
    exact ⟨kept, inC, keptID.trans sameID, keptStatus.trans sameStatus⟩
  clients avoided client member := by
    obtain ⟨between, inB, sameID, sameStatus⟩ := early.clients avoided client member
    obtain ⟨kept, inC, keptID, keptStatus⟩ := late.clients avoided between inB
    exact ⟨kept, inC, keptID.trans sameID, keptStatus.trans sameStatus⟩
  sessions avoided :=
    moved_trans SessionContinues.trans (early.sessions avoided) (late.sessions avoided)
  logouts avoided kept := (late.logouts avoided kept).trans (early.logouts avoided kept)
  grants avoided := (late.grants avoided).trans (early.grants avoided)
  codes avoided := (late.codes avoided).trans (early.codes avoided)
  families avoided :=
    moved_trans FamilyContinues.trans (early.families avoided) (late.families avoided)
  generations avoided := (late.generations avoided).trans (early.generations avoided)
  accesses avoided :=
    moved_trans AccessContinues.trans (early.accesses avoided) (late.accesses avoided)
  events avoided event member := by
    rcases late.events avoided event member with inB | unmarked
    · exact early.events avoided event inB
    · exact Or.inr unmarked

theorem isLock_of_writeKind {ρ χ β : Type} {kind : Kind} {kinds : List Kind}
    {s : TableStmt ρ χ β} (allowed : writeKind kind s ∈ kinds) (avoided : kind ∉ kinds) :
    s.isLock := by
  cases s with
  | insert row => exact absurd allowed avoided
  | lock matching => rfl
  | update matching change => exact absurd allowed avoided

theorem not_inserts_of_insertKind {ρ χ β : Type} {kind : Kind} {kinds : List Kind}
    {s : TableStmt ρ χ β} (allowed : insertKind kind s ∈ kinds) (avoided : kind ∉ kinds) :
    s.inserts = false := by
  cases s with
  | insert row => exact absurd allowed avoided
  | lock matching => rfl
  | update matching change => rfl

/-- A user statement other than a profile update keeps every status. -/
theorem users_stayed {β : Type} {kinds : List Kind} {s : TableStmt User UserChange β} {db : Db}
    {rows : List User} {answer : β} (allowed : (Stmt.users s).kind ∈ kinds)
    (avoided : .status ∉ kinds) (ran : s.exec usersTable db db.users = .ok (answer, rows)) :
    ∀ user ∈ db.users, ∃ kept ∈ rows, kept.id = user.id ∧ kept.status = user.status := by
  intro user member
  cases s with
  | insert row =>
    obtain ⟨-, rfl⟩ := TableStmt.exec_insert_ok.mp ran
    exact ⟨user, List.mem_append_left _ member, rfl, rfl⟩
  | lock matching =>
    obtain ⟨-, rfl⟩ := TableStmt.exec_lock_ok.mp ran
    exact ⟨user, member, rfl, rfl⟩
  | update matching change =>
    cases change with
    | profile => exact absurd allowed avoided
    | lastLogin lastLoginAt =>
      obtain ⟨-, -, rfl⟩ := TableStmt.exec_update_ok.mp ran
      refine ⟨_, mem_updateRows.mpr ⟨user, member, rfl⟩, ?_⟩
      split <;> exact ⟨rfl, rfl⟩

theorem clients_stayed {β : Type} {kinds : List Kind} {s : TableStmt ClientRow ClientChange β}
    {db : Db} {rows : List ClientRow} {answer : β} (allowed : (Stmt.clients s).kind ∈ kinds)
    (avoided : .status ∉ kinds) (ran : s.exec clientsTable db db.clients = .ok (answer, rows)) :
    ∀ client ∈ db.clients, ∃ kept ∈ rows, kept.id = client.id ∧ kept.status = client.status := by
  intro client member
  cases s with
  | insert row =>
    obtain ⟨-, rfl⟩ := TableStmt.exec_insert_ok.mp ran
    exact ⟨client, List.mem_append_left _ member, rfl, rfl⟩
  | lock matching =>
    obtain ⟨-, rfl⟩ := TableStmt.exec_lock_ok.mp ran
    exact ⟨client, member, rfl, rfl⟩
  | update matching change => exact absurd allowed avoided

theorem auditEvents_stayed {β : Type} {kinds : List Kind} {s : TableStmt AuditEvent Empty β}
    {db : Db} {rows : List AuditEvent} {answer : β} (allowed : (Stmt.auditEvents s).kind ∈ kinds)
    (avoided : .marked ∉ kinds)
    (ran : s.exec auditEventsTable db db.auditEvents = .ok (answer, rows)) :
    ∀ event ∈ rows, event ∈ db.auditEvents ∨ event.oncePerTarget = none := by
  intro event member
  cases s with
  | insert row =>
    obtain ⟨-, rfl⟩ := TableStmt.exec_insert_ok.mp ran
    rcases List.mem_append.mp member with old | isRow
    · exact Or.inl old
    · rw [List.mem_singleton.mp isRow]
      right
      by_contra once
      have marked : (Stmt.auditEvents (.insert row)).kind = .marked := by
        simp [Stmt.kind, Option.isSome_iff_ne_none, once]
      exact avoided (marked ▸ allowed)
  | lock matching =>
    obtain ⟨-, rfl⟩ := TableStmt.exec_lock_ok.mp ran
    exact Or.inl member
  | update matching change => exact change.elim

theorem exec_stayed {β : Type} {kinds : List Kind} {statement : Stmt β} {db after : Db}
    {answer : β} (allowed : statement.kind ∈ kinds) (growing : .retire ∉ kinds)
    (executed : exec statement db = .ok (answer, after)) : Db.Stayed kinds db after := by
  have unchanged := Db.Stayed.refl kinds db
  cases statement with
  | read select | advisoryLock key | newEventID =>
    cases executed
    exact unchanged
  | deleteClientRedirectURIs clientID | deleteClientLogoutURIs clientID
  | deleteClientScopes clientID =>
    cases executed
    exact { unchanged with }
  | insertClientRedirectURI row | insertClientLogoutURI row | insertClientScope row =>
    rw [exec] at executed
    obtain ⟨rows, -, same⟩ := map_ok.mp executed
    cases same
    exact { unchanged with }
  | users s =>
    rw [exec] at executed
    obtain ⟨rows, ran, rfl⟩ := store_ok.mp executed
    exact { unchanged with users := fun avoided => users_stayed allowed avoided ran }
  | clients s =>
    rw [exec] at executed
    obtain ⟨rows, ran, rfl⟩ := store_ok.mp executed
    exact { unchanged with clients := fun avoided => clients_stayed allowed avoided ran }
  | consentGrants s =>
    rw [exec] at executed
    obtain ⟨rows, ran, rfl⟩ := store_ok.mp executed
    exact { unchanged with
      grants := fun avoided => TableStmt.exec_isLock (isLock_of_writeKind allowed avoided) ran }
  | authorizationCodes s =>
    rw [exec] at executed
    obtain ⟨rows, ran, rfl⟩ := store_ok.mp executed
    exact { unchanged with
      codes := fun avoided => TableStmt.exec_isLock (isLock_of_writeKind allowed avoided) ran }
  | refreshTokenFamilies s =>
    rw [exec] at executed
    obtain ⟨rows, ran, rfl⟩ := store_ok.mp executed
    exact { unchanged with
      families := fun avoided => TableStmt.exec_moved (refreshTokenFamilies_respect db)
        (not_inserts_of_insertKind allowed avoided) ran }
  | refreshTokens s =>
    rw [exec] at executed
    obtain ⟨rows, ran, rfl⟩ := store_ok.mp executed
    exact { unchanged with
      generations := fun avoided =>
        TableStmt.exec_isLock (isLock_of_writeKind allowed avoided) ran }
  | accessTokens s =>
    rw [exec] at executed
    obtain ⟨rows, ran, rfl⟩ := store_ok.mp executed
    exact { unchanged with
      accesses := fun avoided => TableStmt.exec_moved (accessTokens_respect db)
        (not_inserts_of_insertKind allowed avoided) ran }
  | auditEvents s =>
    rw [exec] at executed
    obtain ⟨rows, ran, rfl⟩ := store_ok.mp executed
    exact { unchanged with events := fun avoided => auditEvents_stayed allowed avoided ran }
  | loginSessions s =>
    rw [exec] at executed
    obtain ⟨rows, ran, rfl⟩ := store_ok.mp executed
    exact { unchanged with
      sessions := fun avoided => TableStmt.exec_moved (loginSessions_respect db)
        (not_inserts_of_insertKind allowed avoided) ran }
  | logoutTransactions s =>
    rw [exec] at executed
    obtain ⟨rows, ran, rfl⟩ := store_ok.mp executed
    exact { unchanged with
      logouts := fun avoided _ =>
        TableStmt.exec_isLock (isLock_of_writeKind allowed avoided) ran }
  | credentials s | clientSecrets s | preAuthSessions s | authTransactions s =>
    rw [exec] at executed
    obtain ⟨rows, ran, rfl⟩ := store_ok.mp executed
    exact { unchanged with }
  | expireAuthTransactions now limit locked =>
    rw [exec] at executed
    obtain ⟨⟨ended, stored⟩, ran, same⟩ := map_ok.mp executed
    obtain ⟨rows, -, rfl⟩ := store_ok.mp ran
    cases same
    exact { unchanged with }
  | retireLogoutTransactions now cutoff limit locked =>
    rw [exec] at executed
    cases (counted_ok.mp executed).1
    exact { unchanged with logouts := fun _ kept => absurd allowed kept }
  | retireAuthTransactions cutoff limit locked =>
    rw [exec] at executed
    have deleted := (counted_ok.mp executed).1
    rw [restrict_ok.mp deleted |>.2]
    exact { unchanged with }
  | retirePreAuthSessions cutoff limit locked | retireLoginSessions cutoff limit locked
  | retireAuthorizationCodes cutoff limit locked | retireAccessTokens cutoff limit locked
  | retireRefreshTokens cutoff limit locked | retireRefreshTokenFamilies cutoff limit locked =>
    exact absurd allowed growing

/-! ## From statements to bodies -/

section Bodies

variable {α : Type} {kinds : List Kind} {body : Tx α} {db after : Db} {value : α}

theorem run_stayed (within : body.Within kinds) (growing : .retire ∉ kinds)
    (ran : body.run exec db = .ok (value, after)) : Db.Stayed kinds db after :=
  Program.run_rel (Db.Stayed.refl kinds) Db.Stayed.trans
    (fun _ _ _ _ _ allowed executed => exec_stayed allowed growing executed) within ran

theorem Stmt.keepsRows_of_kind {β : Type} {statement : Stmt β} (growing : statement.kind ≠ .retire) :
    statement.keepsRows := by
  cases statement with
  | retireLoginSessions | retireAuthorizationCodes | retireAccessTokens | retireRefreshTokens
  | retireRefreshTokenFamilies => exact absurd rfl growing
  | _ => rfl

theorem Stmt.retires_of_kind {β : Type} {statement : Stmt β} (retiring : statement.kind = .retire) :
    statement.retires := by
  cases statement with
  | retirePreAuthSessions | retireLoginSessions | retireAuthorizationCodes | retireAccessTokens
  | retireRefreshTokens | retireRefreshTokenFamilies => rfl
  | users s =>
    cases s with
    | update matching change => cases change <;> cases retiring
    | insert row => cases retiring
    | lock matching => cases retiring
  | clients s | loginSessions s | authTransactions s | logoutTransactions s | consentGrants s
  | authorizationCodes s
  | refreshTokenFamilies s | refreshTokens s | accessTokens s => cases s <;> cases retiring
  | auditEvents s =>
    cases s with
    | insert row =>
      simp only [Stmt.kind] at retiring
      split at retiring <;> cases retiring
    | lock matching => cases retiring
    | update matching change => exact change.elim
  | _ => cases retiring

theorem run_grew (within : body.Within kinds) (growing : .retire ∉ kinds)
    (ran : body.run exec db = .ok (value, after)) : db.Grew after := by
  refine Program.run_rel Db.Grew.refl Db.Grew.trans ?_ within ran
  intro β statement s answer s' allowed executed
  refine exec_grew (Stmt.keepsRows_of_kind fun isRetire => growing ?_) executed
  exact isRetire ▸ allowed

theorem run_shrank (within : body.Within [.retire])
    (ran : body.run exec db = .ok (value, after)) : db.Shrank after := by
  refine Program.run_rel Db.Shrank.refl Db.Shrank.trans ?_ within ran
  intro β statement s answer s' allowed executed
  exact exec_shrank (Stmt.retires_of_kind (List.mem_singleton.mp allowed)) executed

/-- Every operation keeps the database sound. -/
theorem run_sound (sound : db.Sound) (ran : body.run exec db = .ok (value, after)) :
    after.Sound := by
  refine Program.run_rel (R := fun s s' => s.Sound → s'.Sound) (fun _ => id)
    (fun _ _ _ first second => second ∘ first) ?_ (Program.only_true body) ran sound
  intro β statement s answer s' _ executed sound
  exact exec_sound sound executed

end Bodies

end OneIssuer
