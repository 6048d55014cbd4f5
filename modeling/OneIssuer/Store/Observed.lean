import OneIssuer.Frames
import OneIssuer.Store.Callbacks
import OneIssuer.Store.Steps

/-!
# Observed audit events

The five operations with a list of events hand it to the observer after their commit. `Accounts` says that
a callback adds to the list exactly the events it inserts; it holds for every part of the five callbacks.
`CommitRegistration` and `CommitLogin` start with the events of their caller in the list and insert them
last, so the list and the inserted events agree up to their order.

`transactions_commit_once` puts this on top of `inTx`: its rounds are followed by induction, and what
the observer is handed belongs to the attempt that committed.

**What it does not establish.** What the observer makes of an event, and a commit whose answer is lost
(see `Store.Transaction`).
-/

set_option autoImplicit false

namespace OneIssuer.Store

open Relational Queries Token

/-! ## Silent bodies -/

/-- The statement leaves the audit log alone. -/
def silent {β : Type} : Stmt β → Bool
  | .auditEvents _ => false
  | _ => true

theorem exec_silent {β : Type} {statement : Stmt β} {db after : Db} {answer : β}
    (isSilent : silent statement = true) (executed : exec statement db = .ok (answer, after)) :
    after.auditEvents = db.auditEvents := by
  have free : TableName.auditEvents ∉ statement.writes := by
    cases statement <;> simp_all [silent, Stmt.writes]
  exact exec_same free executed

/-- The body leaves the audit log alone. -/
def Silent {α : Type} (body : Tx α) : Prop := body.Only fun _ statement => silent statement = true

section Silent

variable {α β ρ : Type} {operation : String}

theorem Silent.bind {first : Tx α} {rest : α → Tx β} (left : Silent first)
    (right : ∀ value, Silent (rest value)) : Silent (first >>= rest) := Program.Only.bind left right

theorem Silent.pure (value : α) : Silent (Pure.pure value) := Program.only_pure value

theorem Silent.require (condition : Bool) (error : StoreError) :
    Silent (Program.require condition error) := Program.only_require condition error

theorem Silent.need (row : Option α) (error : StoreError) : Silent (Program.need row error) :=
  Program.only_need row error

theorem Silent.ofExcept (outcome : Except StoreError α) : Silent (Program.ofExcept outcome) :=
  Program.only_ofExcept outcome

theorem Silent.query {statement : Stmt β} (isSilent : silent statement = true) :
    Silent (Tx.query operation statement) := (Program.only_call _ _).mpr isSilent

theorem Silent.write {wrap : PgError → StoreError} {statement : Stmt β}
    (isSilent : silent statement = true) : Silent (write wrap statement) :=
  (Program.only_call _ _).mpr isSilent

theorem Silent.queryOne {statement : Stmt (List ρ)} (isSilent : silent statement = true) :
    Silent (Tx.queryOne operation statement) := .bind (.query isSilent) fun _ => .pure _

theorem Silent.queryRow {absent : StoreError} {statement : Stmt (List ρ)}
    (isSilent : silent statement = true) : Silent (Tx.queryRow operation absent statement) :=
  .bind (.queryOne isSilent) fun _ => .need _ _

theorem Silent.ite {condition : Prop} [Decidable condition] {yes no : Tx α} (left : Silent yes)
    (right : Silent no) : Silent (if condition then yes else no) :=
  Program.only_ite.mpr ⟨fun _ => left, fun _ => right⟩

end Silent

theorem lockClient_silent (operation : String) (absent : StoreError) (id : Uuid) :
    Silent (lockClient operation absent id) :=
  .bind (.queryRow rfl) fun _ => .bind (.query rfl) fun _ => .bind (.query rfl) fun _ =>
    .bind (.query rfl) fun _ => .pure _

theorem cascade_silent (families accesses : Selector) (now : Time) (reason : RevokeReason)
    (lockFamilies lockAccesses revokeFamilies revokeAccesses : String) :
    Silent (cascade families accesses now reason lockFamilies lockAccesses revokeFamilies
      revokeAccesses) :=
  .bind (.query rfl) fun _ => .bind (.query rfl) fun _ => .bind (.query rfl) fun _ =>
    .bind (.query rfl) fun _ => .pure _

theorem revokeSessionBindingCascade_silent (bindingID : Uuid) (now : Time) (reason : RevokeReason) :
    Silent (revokeSessionBindingCascade bindingID now reason) :=
  .bind (.require _ _) fun _ => .ite (.pure _) (.bind (.require _ _) fun _ => cascade_silent ..)

theorem lockAndCheckRegistration_silent (user : User) : Silent (lockAndCheckRegistration user) :=
  .bind (Program.Only.each (fun _ => Silent.query rfl) _) fun _ =>
    Program.Only.each (fun _ => Silent.bind (.query rfl) fun _ => .require _ _) _

theorem consumeFlowTransaction_silent (operation : String) (consume : Bool) (now : Time) (id : Uuid) :
    Silent (consumeFlowTransaction operation consume now id) :=
  .ite (.bind (.queryRow rfl) fun _ => .pure _) (.pure _)

theorem rehashCredential_silent (commit : LoginCommit) : Silent (rehashCredential commit) :=
  .ite (.pure _) (.bind (.query rfl) fun _ => .pure _)

theorem countFailedProof_silent (input : CompleteInput) (transaction : LogoutTransaction) :
    Silent (countFailedProof input transaction) :=
  .ite (.bind (.query rfl) fun _ => .pure _) (.pure _)

theorem lockExchangeAuthority_silent (sha : Sha256) (input : ExchangeInput) (mint : MintFunc)
    (code : AuthorizationCode) : Silent (lockExchangeAuthority sha input mint code) := by
  unfold lockExchangeAuthority
  exact .bind (.require _ _) fun _ => .bind (.require _ _) fun _ => .bind (.queryRow rfl) fun _ =>
    .bind (.require _ _) fun _ => .bind (lockClient_silent ..) fun _ => .bind (.require _ _) fun _ =>
    .bind (.need _ _) fun _ => .bind (.require _ _) fun _ => .bind (.queryRow rfl) fun _ =>
    .bind (.require _ _) fun _ => .bind (.ofExcept _) fun _ => .bind (.require _ _) fun _ => .pure _

theorem createInitialRefresh_silent (code : AuthorizationCode) (locked : LockedExchange) :
    Silent (createInitialRefresh code locked) := by
  unfold createInitialRefresh
  cases locked.minted.initialRefresh with
  | none => exact .pure _
  | some initial => exact .bind (.need _ _) fun _ => .bind (.query rfl) fun _ => .query rfl

theorem lockRefreshAuthority_silent (input : RefreshInput) (candidate : RefreshToken)
    (candidateFamily : RefreshTokenFamily) :
    Silent (lockRefreshAuthority input candidate candidateFamily) := by
  unfold lockRefreshAuthority
  exact .bind (.queryRow rfl) fun _ => .bind (.require _ _) fun _ => .bind (lockClient_silent ..) fun _ =>
    .bind (.require _ _) fun _ => .bind (.queryRow rfl) fun _ => .bind (.require _ _) fun _ =>
    .bind (.queryRow rfl) fun _ => .bind (.require _ _) fun _ => .bind (.queryRow rfl) fun _ =>
    .bind (.require _ _) fun _ => .pure _

/-! ## Callbacks that account for what they insert -/

/-- A run of the callback adds to the list of events exactly the events it inserts. -/
def Accounts {σ α : Type} (events : σ → List Audit.Event) (callback : Callback σ α) : Prop :=
  ∀ s, (callback s).Appends exec (·.auditEvents) fun ended items =>
    ∃ inserted : List Audit.Event, items = inserted.map Audit.Event.row ∧
      (events ended.2).Perm (events s ++ inserted)

section Accounts

variable {σ α β : Type} {events : σ → List Audit.Event}

theorem Accounts.pure (value : α) : Accounts events (Pure.pure value : Callback σ α) := by
  intro s
  refine .done ⟨[], rfl, ?_⟩
  rw [List.append_nil]

theorem Accounts.bind {first : Callback σ α} {rest : α → Callback σ β} (left : Accounts events first)
    (right : ∀ value, Accounts events (rest value)) : Accounts events (first >>= rest) := by
  intro s
  refine Captured.appends_bind ((left s).mono fun ended items before => ?_)
  obtain ⟨inserted, rfl, isFirst⟩ := before
  refine (right ended.1 ended.2).mono fun last more after => ?_
  obtain ⟨later, rfl, isRest⟩ := after
  refine ⟨inserted ++ later, List.map_append.symm, isRest.trans ?_⟩
  rw [← List.append_assoc]
  exact isFirst.append_right later

theorem Accounts.ite {condition : Prop} [Decidable condition] {yes no : Callback σ α}
    (left : Accounts events yes) (right : Accounts events no) :
    Accounts events (if condition then yes else no) := by
  split
  · exact left
  · exact right

/-- An assignment to another variable. -/
theorem Accounts.assign {f : σ → σ} (keeps : ∀ s, events (f s) = events s) :
    Accounts events (Captured.assign f : Callback σ Unit) := by
  intro s
  refine .done ⟨[], rfl, ?_⟩
  rw [List.append_nil, keeps]

theorem Accounts.current : Accounts events (Captured.current : Callback σ σ) := by
  intro s
  refine .done ⟨[], rfl, ?_⟩
  rw [List.append_nil]

theorem Accounts.silent {body : Tx α} (isSilent : Silent body) :
    Accounts events (Captured.lift body : Callback σ α) := by
  intro s
  refine Captured.appends_lift (.silent (fun _ _ _ _ _ quiet executed => exec_silent quiet executed)
    isSilent fun value => ⟨[], rfl, ?_⟩)
  rw [List.append_nil]

theorem insertAudit_appends (event : Audit.Event) :
    (insertAudit event).Appends exec (·.auditEvents) fun _ items => items = [event.row] := by
  intro db value after ran
  obtain ⟨-, -, rfl⟩ := insertAudit_ok.mp ran
  exact ⟨[event.row], rfl, rfl⟩

theorem appendNewAudit_appends (build : Uuid → Audit.Event) :
    (appendNewAudit build).Appends exec (·.auditEvents) fun event items => items = [event.row] := by
  intro db event after ran
  simp only [appendNewAudit, Program.run_bind_ok, Program.run_require_ok, Tx.query_ok,
    Program.run_pure_ok, Prod.mk.injEq] at ran
  obtain ⟨id, _, executed, _, _, ⟨-, rfl⟩, _, _, inserted, rfl, rfl⟩ := ran
  obtain ⟨-, -, rfl⟩ := insertAudit_ok.mp inserted
  cases executed
  exact ⟨_, rfl, rfl⟩

theorem appendRevokedSession_appends {operation : String} {existing : LoginSession} {now : Time}
    {reason : RevokeReason} {actor : Uuid} {requestID : Audit.RequestID} :
    (appendRevokedSession operation existing now reason actor requestID).Appends exec (·.auditEvents)
      fun event items => items = [event.row] :=
  .bind (.silent (fun _ _ _ _ _ quiet executed => exec_silent quiet executed) (Silent.queryRow rfl)
    fun _ => appendNewAudit_appends _)

/-- One event, inserted and noted. -/
theorem Accounts.note {body : Tx Audit.Event} {f : Audit.Event → σ → σ}
    (inserts : body.Appends exec (·.auditEvents) fun event items => items = [event.row])
    (adds : ∀ event s, events (f event s) = events s ++ [event]) :
    Accounts events (do
      let event ← Captured.lift body
      Captured.assign (f event) : Callback σ Unit) := by
  intro s
  refine Captured.appends_bind (Captured.appends_lift (inserts.mono ?_))
  rintro event _ rfl
  refine .done ⟨[event], rfl, ?_⟩
  rw [adds]

/-- Two events, inserted and then noted together. -/
theorem Accounts.noteBoth {first second : Tx Audit.Event} {f : Audit.Event → Audit.Event → σ → σ}
    (insertsFirst : first.Appends exec (·.auditEvents) fun event items => items = [event.row])
    (insertsSecond : second.Appends exec (·.auditEvents) fun event items => items = [event.row])
    (adds : ∀ event other s, events (f event other s) = events s ++ [event, other]) :
    Accounts events (do
      let event ← Captured.lift first
      let other ← Captured.lift second
      Captured.assign (f event other) : Callback σ Unit) := by
  intro s
  refine Captured.appends_bind (Captured.appends_lift (insertsFirst.mono ?_))
  rintro event _ rfl
  refine Captured.appends_bind (Captured.appends_lift (insertsSecond.mono ?_))
  rintro other _ rfl
  refine .done ⟨[event, other], rfl, ?_⟩
  rw [adds]

/-- The events of the caller are in the list from the start and are inserted last. -/
theorem Accounts.withGiven {callback : Callback σ Unit} (accounts : Accounts events callback)
    (given : List Audit.ServiceEvent) {s : σ} (starts : events s = given.map (·.event)) :
    ((do
      callback
      Captured.lift (Program.each (fun event => insertAudit event.event) given) :
        Callback σ Unit) s).Appends exec (·.auditEvents)
      fun ended items => ∃ inserted : List Audit.Event, items = inserted.map Audit.Event.row ∧
        (events ended.2).Perm inserted := by
  refine Captured.appends_bind ((accounts s).mono fun ended items before => ?_)
  obtain ⟨inserted, rfl, isPerm⟩ := before
  have each := Program.Appends.each (fun event : Audit.ServiceEvent => insertAudit_appends event.event)
    given
  refine Captured.appends_lift (each.mono fun _ more after => ?_)
  subst after
  refine ⟨inserted ++ given.map (·.event), ?_, ?_⟩
  · rw [List.map_append, List.map_map]
    rfl
  · rw [starts] at isPerm
    exact isPerm.trans List.perm_append_comm

end Accounts

theorem registrationCallback_accounts (commit : RegisterCommit) :
    Accounts id (registrationCallback commit) := by
  refine .bind (.silent (.bind (lockAndCheckRegistration_silent _) fun _ => .bind (.write rfl) fun _ =>
    .write rfl)) fun _ => .bind ?_ fun _ => .silent (.bind (.query rfl) fun _ =>
    .bind (.queryRow rfl) fun _ => consumeFlowTransaction_silent ..)
  refine .ite (.pure _) (.bind (.silent (.queryOne rfl)) fun found => ?_)
  cases found with
  | none => exact .pure _
  | some existing =>
    exact .ite (.bind (.silent (revokeSessionBindingCascade_silent ..)) fun _ =>
      .note appendRevokedSession_appends fun _ _ => rfl) (.pure _)

theorem loginCallback_accounts (commit : LoginCommit) :
    Accounts LoginVariables.events (loginCallback commit) := by
  refine .bind (.silent (.bind (.queryRow rfl) fun _ => .bind (.require _ _) fun _ =>
    .bind (.queryRow rfl) fun _ => consumeFlowTransaction_silent ..)) fun _ => .bind ?_ fun _ =>
    .bind (.silent (.bind (rehashCredential_silent _) fun _ => .bind (.query rfl) fun _ => .pure _))
    fun _ => .bind (.assign fun _ => rfl) fun _ => .bind .current fun _ => .silent (.query rfl)
  refine .ite (.pure _) (.bind (.silent (.queryOne rfl)) fun found => ?_)
  cases found with
  | none => exact .pure _
  | some existing =>
    refine .ite (.bind ?_ fun _ => .note appendRevokedSession_appends fun _ _ => rfl) (.pure _)
    exact .ite (.assign fun _ => rfl) (.silent (revokeSessionBindingCascade_silent ..))

theorem logoutCallback_accounts (input : CompleteInput) :
    Accounts LogoutVariables.events (logoutCallback input) := by
  refine .bind (.silent (.bind (.queryRow rfl) fun _ => .bind (.require _ _) fun _ =>
    .bind (.queryRow rfl) fun _ => .bind (.require _ _) fun _ => .pure _)) fun transaction => .ite
    (.bind (.silent (countFailedProof_silent ..)) fun _ => .assign fun _ => rfl)
    (.bind (.assign fun _ => rfl) fun _ => ?_)
  cases input.decision with
  | cancel => exact .silent (.bind (.queryRow rfl) fun _ => .pure _)
  | confirm =>
    refine .bind (.silent (.bind (cascade_silent ..) fun _ => .bind (.queryRow rfl) fun _ =>
      .bind (.queryRow rfl) fun _ => .pure _)) fun _ => ?_
    exact .noteBoth (appendNewAudit_appends _) (appendNewAudit_appends _) fun _ _ _ => rfl

theorem noteProtocolAudit_accounts {type : Audit.EventType} {result : Audit.Result} {actor : Uuid}
    {targetType : Audit.TargetType} {target : Uuid} {requestID : Audit.RequestID}
    {changed : List String} {now : Time} :
    Accounts ExchangeVariables.events
      (noteProtocolAudit type result actor targetType target requestID changed now) :=
  .note (appendNewAudit_appends _) fun _ _ => rfl

theorem exchangeCodeCallback_accounts (sha : Sha256) (input : ExchangeInput) (mint : MintFunc) :
    Accounts ExchangeVariables.events (exchangeCodeCallback sha input mint) := by
  refine .bind (.silent (.queryRow rfl)) fun code => .ite (.bind ?_ fun _ => .assign fun _ => rfl)
    (.bind (.silent ?_) fun locked => .bind ?_ fun _ => .assign fun _ => rfl)
  · exact .bind (.silent (.query rfl)) fun _ => .ite (.pure _) noteProtocolAudit_accounts
  · exact .bind (lockExchangeAuthority_silent ..) fun _ => .bind (createInitialRefresh_silent ..) fun _ =>
      .bind (.query rfl) fun _ => .bind (.queryRow rfl) fun _ => .pure _
  · refine .bind noteProtocolAudit_accounts fun _ => .bind noteProtocolAudit_accounts fun _ => ?_
    cases locked.minted.initialRefresh with
    | none => exact .pure _
    | some initial => exact noteProtocolAudit_accounts

theorem exchangeRefreshCallback_accounts (sha : Sha256) (input : RefreshInput) (mint : RefreshMintFunc)
    (candidate : RefreshToken) (candidateFamily : RefreshTokenFamily) :
    Accounts ExchangeVariables.events
      (exchangeRefreshCallback sha input mint candidate candidateFamily) := by
  refine .bind (.silent (lockRefreshAuthority_silent ..)) fun locked => .ite ?_ ?_
  · exact .bind (.silent (.bind (.queryRow rfl) fun _ => .bind (.query rfl) fun _ => .pure _)) fun _ =>
      .bind noteProtocolAudit_accounts fun _ => .bind noteProtocolAudit_accounts fun _ =>
      .assign fun _ => rfl
  · refine .bind (.silent ?_) fun _ => .bind noteProtocolAudit_accounts fun _ =>
      .bind noteProtocolAudit_accounts fun _ => .assign fun _ => rfl
    exact .bind (.require _ _) fun _ => .bind (.ofExcept _) fun _ => .bind (.ofExcept _) fun _ =>
      .bind (.require _ _) fun _ => .bind (.queryRow rfl) fun _ => .bind (.query rfl) fun _ =>
      .bind (.query rfl) fun _ => .pure _

/-- After a whole run the list is what the run inserted, up to the order. -/
theorem AuditedCall.events_inserted (sha : Sha256) (call : AuditedCall) (s : call.Variables) :
    ((call.operation sha).body ((call.operation sha).reset s)).Appends exec (·.auditEvents)
      fun ended items => ∃ inserted : List Audit.Event, items = inserted.map Audit.Event.row ∧
        (call.events ended.2).Perm inserted := by
  cases call with
  | commitRegistration commit => exact (registrationCallback_accounts commit).withGiven commit.events rfl
  | commitLogin commit => exact (loginCallback_accounts commit).withGiven commit.events rfl
  | completeLogoutTransaction input => exact logoutCallback_accounts input _
  | exchangeAuthorizationCode input mint => exact exchangeCodeCallback_accounts sha input mint _
  | exchangeRefreshToken input mint candidate candidateFamily =>
    exact exchangeRefreshCallback_accounts sha input mint candidate candidateFamily _

/-! ## What is observed -/

/-- What happens in a call: the phases of its transaction, then the events its observer is told. -/
inductive Happening (σ : Type) where
  | phase (phase : Phase σ)
  | observed (event : Audit.Event)

/-- `observeAuditEvents`. -/
def observeAuditEvents {σ : Type} (events : List Audit.Event) : List (Happening σ) :=
  events.map .observed

/-- The observed event, if it is one. -/
def Happening.event? {σ : Type} : Happening σ → Option Audit.Event
  | .phase _ => none
  | .observed event => some event

/-- A call: its checks, its transaction, and the observation after a success. -/
def AuditedCall.happenings (sha : Sha256) (call : AuditedCall) (rounds : Nat → Round) :
    List (Happening call.Variables) :=
  if call.checked then
    let ended := inTxCaptured (call.operation sha) rounds call.initial
    ended.trace.map .phase ++
      if ended.failure.isNone then observeAuditEvents (call.events ended.captured) else []
  else []

/-- Events are observed only after a commit. -/
def ObservedAfterCommit {σ : Type} (happenings : List (Happening σ)) : Prop :=
  ∀ earlier event later, happenings = earlier ++ .observed event :: later →
    ∃ after, .phase (.committed after) ∈ earlier

/-- The observed events are the events the committed run inserted. -/
def ObservedAsInserted {σ : Type} (happenings : List (Happening σ)) : Prop :=
  ∀ after, .phase (.committed after) ∈ happenings →
    ∃ round captured inserted, .phase (.ran round (.ok (((), captured), after))) ∈ happenings ∧
      after.auditEvents = round.found.auditEvents ++ inserted.map Audit.Event.row ∧
      (happenings.filterMap Happening.event?).Perm inserted

/-- A call that passes its checks. -/
theorem AuditedCall.happenings_checked {sha : Sha256} {call : AuditedCall} (isChecked : call.checked = true)
    (rounds : Nat → Round) :
    call.happenings sha rounds =
      (inTxCaptured (call.operation sha) rounds call.initial).trace.map .phase ++
        if (inTxCaptured (call.operation sha) rounds call.initial).failure.isNone then
          observeAuditEvents (call.events (inTxCaptured (call.operation sha) rounds call.initial).captured)
        else [] := by
  rw [AuditedCall.happenings, if_pos isChecked]

theorem AuditedCall.happenings_unchecked {sha : Sha256} {call : AuditedCall}
    (unchecked : call.checked = false) (rounds : Nat → Round) : call.happenings sha rounds = [] := by
  rw [AuditedCall.happenings, if_neg (by rw [unchecked]; exact Bool.false_ne_true)]

/-- A commit in the trace is a success. -/
theorem Guarantees.success_of_committed {σ : Type} {operation : Operation σ} {s : σ} {ended : Ended σ}
    (guarantees : Guarantees operation s ended) {after : Db} (inTrace : .committed after ∈ ended.trace) :
    ended.failure = none := by
  have some : 0 < ended.trace.countP Phase.isCommitted := List.countP_pos_iff.mpr ⟨_, inTrace, rfl⟩
  exact guarantees.success.mpr (le_antisymm guarantees.once some)

/-- A success has a commit in its trace. -/
theorem Guarantees.committed_of_success {σ : Type} {operation : Operation σ} {s : σ} {ended : Ended σ}
    (guarantees : Guarantees operation s ended) (succeeded : ended.failure = none) :
    ∃ after, .committed after ∈ ended.trace := by
  have once := guarantees.success.mp succeeded
  have some : 0 < ended.trace.countP Phase.isCommitted := by omega
  obtain ⟨phase, inTrace, isCommitted⟩ := List.countP_pos_iff.mp some
  cases phase with
  | committed after => exact ⟨after, inTrace⟩
  | _ => cases isCommitted

theorem happenings_afterCommit (sha : Sha256) (call : AuditedCall) (rounds : Nat → Round) :
    ObservedAfterCommit (call.happenings sha rounds) := by
  intro earlier event later split
  cases isChecked : call.checked with
  | false =>
    rw [AuditedCall.happenings_unchecked isChecked] at split
    exact absurd split.symm (by simp)
  | true =>
    rw [AuditedCall.happenings_checked isChecked] at split
    have guarantees := inTxCaptured_guarantees (call.operation sha) rounds call.initial
    generalize inTxCaptured (call.operation sha) rounds call.initial = ended at split guarantees
    have noPhase : (.observed event : Happening call.Variables) ∉ ended.trace.map .phase := by simp
    cases failed : ended.failure with
    | some failure =>
      rw [failed] at split
      refine absurd ?_ noPhase
      simp only [Option.isNone_some, Bool.false_eq_true, if_false, List.append_nil] at split
      rw [split]
      exact List.mem_append_right _ List.mem_cons_self
    | none =>
      obtain ⟨after, inTrace⟩ := guarantees.committed_of_success failed
      refine ⟨after, ?_⟩
      have inPhases : Happening.phase (.committed after) ∈ ended.trace.map Happening.phase :=
        List.mem_map_of_mem inTrace
      -- The phases end before the first observed event.
      rcases List.append_eq_append_iff.mp split with ⟨between, isEarlier, -⟩ | ⟨between, isPhases, isLater⟩
      · rw [isEarlier]
        exact List.mem_append_left _ inPhases
      · cases between with
        | nil =>
          rw [isPhases, List.append_nil] at inPhases
          exact inPhases
        | cons head rest =>
          obtain ⟨rfl, -⟩ := List.cons.inj isLater
          refine absurd ?_ noPhase
          rw [isPhases]
          exact List.mem_append_right _ List.mem_cons_self

theorem happenings_asInserted (sha : Sha256) (call : AuditedCall) (rounds : Nat → Round) :
    ObservedAsInserted (call.happenings sha rounds) := by
  intro after happened
  cases isChecked : call.checked with
  | false =>
    rw [AuditedCall.happenings_unchecked isChecked] at happened
    cases happened
  | true =>
    rw [AuditedCall.happenings_checked isChecked] at happened ⊢
    have guarantees := inTxCaptured_guarantees (call.operation sha) rounds call.initial
    generalize inTxCaptured (call.operation sha) rounds call.initial = ended at happened guarantees ⊢
    have inTrace : .committed after ∈ ended.trace := by
      rcases List.mem_append.mp happened with inPhases | inEvents
      · simpa using inPhases
      · split at inEvents
        · simp [observeAuditEvents] at inEvents
        · cases inEvents
    have succeeded := guarantees.success_of_committed inTrace
    obtain ⟨round, ran⟩ := guarantees.effects after inTrace
    have isRun := guarantees.fresh round _ ran
    obtain ⟨_, isLog, inserted, rfl, isPerm⟩ :=
      call.events_inserted sha call.initial round.found _ after (Program.run_of_runUnder exec isRun.symm)
    refine ⟨round, ended.captured, inserted, ?_, isLog, ?_⟩
    · exact List.mem_append_left _ (List.mem_map_of_mem ran)
    · rw [succeeded]
      simpa [observeAuditEvents, List.filterMap_append, List.filterMap_map, Function.comp_def,
        Happening.event?] using isPerm

/-- The transaction helper runs a callback at most twice, commits at most one run and leaves no value of
a failed run behind; what the five operations observe is what they committed. -/
theorem transactions_commit_once (sha : Sha256) :
    (∀ (σ : Type) (operation : Operation σ) (rounds : Nat → Round) (s : σ),
      Guarantees operation s (inTxCaptured operation rounds s)) ∧
    ∀ (call : AuditedCall) (rounds : Nat → Round),
      ObservedAfterCommit (call.happenings sha rounds) ∧
        ObservedAsInserted (call.happenings sha rounds) :=
  ⟨fun _ operation rounds s => inTxCaptured_guarantees operation rounds s, fun call rounds =>
    ⟨happenings_afterCommit sha call rounds, happenings_asInserted sha call rounds⟩⟩

end OneIssuer.Store
