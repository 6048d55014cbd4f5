import OneIssuer.Relational.Captured
import OneIssuer.Store.Logout

/-!
# The transaction helper and what its callbacks capture

`inTx` runs a callback that assigns variables of its caller: the response, the events to observe, the
binding of a session. They are not part of the database, so a rollback does not restore them; `inTx`
calls the caller's `reset` before every attempt and before it returns an error. The loop is modelled
with these variables and with the trace of its phases.

`inTx` in `Store.Transaction` is the same helper without the variables (`inTxCaptured_answers`).
-/

set_option autoImplicit false

namespace OneIssuer.Store

open Relational Queries Token

/-! ## The helper -/

/-- A callback of `inTx` with the variables it assigns; a reset assigns every one of them. -/
structure Operation (σ : Type) where
  reset : σ → σ
  body : Captured Stmt PgError StoreError σ Unit
  forgets : ∀ s t, reset s = reset t

/-- The state an attempt finds, and the faults it meets. -/
structure Round where
  found : Db
  attempt : Attempt

/-- `maxTransactionAttempts`. -/
def maxTransactionAttempts : Nat := 2

/-- How `inTx` fails. -/
inductive TxFailure where
  | beginTransaction (cause : PgError)
  | operation (error : StoreError)
  | commitTransaction (cause : PgError)
  | retryExhausted

/-- What `inTx` does, phase by phase. -/
inductive Phase (σ : Type) where
  | beginFailed
  | ran (round : Round) (ended : Except (StoreError × σ) ((Unit × σ) × Db))
  | rolledBack
  | commitFailed
  | committed (after : Db)

/-- How a call of `inTx` ends: its error, the captured variables and the phases, oldest first. -/
structure Ended (σ : Type) where
  failure : Option TxFailure
  captured : σ
  trace : List (Phase σ)

section Helper

variable {σ : Type}

/-- The phases before a later attempt. -/
def Ended.after (earlier : List (Phase σ)) (ended : Ended σ) : Ended σ :=
  { ended with trace := earlier ++ ended.trace }

/-- The loop of `inTx`: `left` attempts are left. -/
def inTxFrom (operation : Operation σ) (rounds : Nat → Round) : Nat → Nat → σ → Ended σ
  | 0, _, captured => ⟨some .retryExhausted, captured, []⟩
  | left + 1, attempt, captured =>
    let captured := operation.reset captured
    let round := rounds attempt
    match round.attempt.beginFault with
    | some cause => ⟨some (.beginTransaction cause), captured, [.beginFailed]⟩
    | none =>
      let ended := (operation.body captured).runUnder exec round.attempt.faults round.found
      match ended with
      | .error (error, captured) =>
        if attempt == 0 && error.isRetryable then
          (inTxFrom operation rounds left (attempt + 1) captured).after [.ran round ended, .rolledBack]
        else ⟨some (.operation error), operation.reset captured, [.ran round ended, .rolledBack]⟩
      | .ok (((), captured), after) =>
        match round.attempt.commitFault with
        | some cause =>
          ⟨some (.commitTransaction cause), operation.reset captured, [.ran round ended, .commitFailed]⟩
        | none => ⟨none, captured, [.ran round ended, .committed after]⟩

/-- `inTx` with the variables its callback captures. -/
def inTxCaptured (operation : Operation σ) (rounds : Nat → Round) (captured : σ) : Ended σ :=
  inTxFrom operation rounds maxTransactionAttempts 0 captured

/-- The phase is a run of the callback. -/
def Phase.isRun : Phase σ → Bool
  | .ran _ _ => true
  | _ => false

/-- The phase is a run of the callback that ended in a retryable error. -/
def Phase.isRetryable : Phase σ → Bool
  | .ran _ (.error (error, _)) => error.isRetryable
  | _ => false

/-- The phase is an attempt to commit. -/
def Phase.isCommit : Phase σ → Bool
  | .commitFailed => true
  | .committed _ => true
  | _ => false

/-- The phase is a commit. -/
def Phase.isCommitted : Phase σ → Bool
  | .committed _ => true
  | _ => false

/-- The last attempt of a call. -/
inductive LastAttempt (operation : Operation σ) (round : Round) (s : σ) : Ended σ → Prop where
  | beginFailed (cause : PgError) :
      LastAttempt operation round s ⟨some (.beginTransaction cause), operation.reset s, [.beginFailed]⟩
  | operationFailed {error : StoreError} {captured : σ}
      (ran : (operation.body (operation.reset s)).runUnder exec round.attempt.faults round.found =
        .error (error, captured)) :
      LastAttempt operation round s ⟨some (.operation error), operation.reset s,
        [.ran round (.error (error, captured)), .rolledBack]⟩
  | commitFailed (cause : PgError) {captured : σ} {after : Db}
      (ran : (operation.body (operation.reset s)).runUnder exec round.attempt.faults round.found =
        .ok (((), captured), after)) :
      LastAttempt operation round s ⟨some (.commitTransaction cause), operation.reset s,
        [.ran round (.ok (((), captured), after)), .commitFailed]⟩
  | committed {captured : σ} {after : Db}
      (ran : (operation.body (operation.reset s)).runUnder exec round.attempt.faults round.found =
        .ok (((), captured), after)) :
      LastAttempt operation round s ⟨none, captured,
        [.ran round (.ok (((), captured), after)), .committed after]⟩

/-- One turn of the loop: the last attempt, or a first one that ends in a retryable error. -/
theorem inTxFrom_turn (operation : Operation σ) (rounds : Nat → Round) (left attempt : Nat) (s : σ) :
    LastAttempt operation (rounds attempt) s (inTxFrom operation rounds (left + 1) attempt s) ∨
      attempt = 0 ∧ ∃ error captured, error.isRetryable = true ∧
        (operation.body (operation.reset s)).runUnder exec (rounds attempt).attempt.faults
            (rounds attempt).found = .error (error, captured) ∧
        inTxFrom operation rounds (left + 1) attempt s =
          (inTxFrom operation rounds left (attempt + 1) captured).after
            [.ran (rounds attempt) (.error (error, captured)), .rolledBack] := by
  rw [inTxFrom]
  simp only
  cases (rounds attempt).attempt.beginFault with
  | some cause => exact .inl (.beginFailed cause)
  | none =>
    cases ran : (operation.body (operation.reset s)).runUnder exec (rounds attempt).attempt.faults
        (rounds attempt).found with
    | error failed =>
      obtain ⟨error, captured⟩ := failed
      simp only
      split
      · rename_i again
        rw [Bool.and_eq_true, beq_iff_eq] at again
        exact .inr ⟨again.1, error, captured, again.2, rfl, rfl⟩
      · rw [operation.forgets captured s]
        exact .inl (.operationFailed ran)
    | ok ended =>
      obtain ⟨⟨⟨⟩, captured⟩, after⟩ := ended
      simp only
      cases (rounds attempt).attempt.commitFault with
      | some cause =>
        rw [operation.forgets captured s]
        exact .inl (.commitFailed cause ran)
      | none => exact .inl (.committed ran)

theorem LastAttempt.of_reset {operation : Operation σ} {round : Round} {s t : σ} {ended : Ended σ}
    (last : LastAttempt operation round s ended) : LastAttempt operation round t ended := by
  have same := operation.forgets s t
  cases last with
  | beginFailed cause =>
    rw [same]
    exact .beginFailed cause
  | operationFailed ran =>
    rw [same] at ran ⊢
    exact .operationFailed ran
  | commitFailed cause ran =>
    rw [same] at ran ⊢
    exact .commitFailed cause ran
  | committed ran =>
    rw [same] at ran
    exact .committed ran

/-- A call is one attempt, or two of which the first ended in a retryable error. -/
theorem inTxCaptured_attempts (operation : Operation σ) (rounds : Nat → Round) (s : σ) :
    LastAttempt operation (rounds 0) s (inTxCaptured operation rounds s) ∨
      ∃ error captured last, error.isRetryable = true ∧
        (operation.body (operation.reset s)).runUnder exec (rounds 0).attempt.faults (rounds 0).found =
          .error (error, captured) ∧
        LastAttempt operation (rounds 1) s last ∧
        inTxCaptured operation rounds s =
          last.after [.ran (rounds 0) (.error (error, captured)), .rolledBack] := by
  rcases inTxFrom_turn operation rounds 1 0 s with last | ⟨-, error, captured, again, ran, isNext⟩
  · exact .inl last
  · refine .inr ⟨error, captured, _, again, ran, ?_, isNext⟩
    rcases inTxFrom_turn operation rounds 0 1 captured with last | ⟨isFirst, -⟩
    · exact last.of_reset
    · exact absurd isFirst Nat.one_ne_zero

/-- What `inTx` guarantees for every callback and every outcome of begin, the statements and commit. -/
structure Guarantees (operation : Operation σ) (s : σ) (ended : Ended σ) : Prop where
  /-- The callback runs at most twice. -/
  runs : ended.trace.countP Phase.isRun ≤ maxTransactionAttempts
  /-- No run after an attempt to commit, and a second one only after a retryable error. -/
  order : ended.trace.Pairwise fun earlier later =>
    (earlier.isCommit = true → later.isRun = false) ∧
      (earlier.isRun = true → later.isRun = true → earlier.isRetryable = true)
  /-- Success is exactly one commit. -/
  success : ended.failure = none ↔ ended.trace.countP Phase.isCommitted = 1
  /-- At most one run is committed. -/
  once : ended.trace.countP Phase.isCommitted ≤ 1
  /-- Every run starts with the variables reset. -/
  fresh : ∀ round outcome, Phase.ran round outcome ∈ ended.trace →
    outcome = (operation.body (operation.reset s)).runUnder exec round.attempt.faults round.found
  /-- What is committed is what one run did, and that run assigned the variables. -/
  effects : ∀ after, Phase.committed after ∈ ended.trace →
    ∃ round, Phase.ran round (.ok (((), ended.captured), after)) ∈ ended.trace
  /-- An error leaves the variables reset. -/
  clean : ended.failure ≠ none → ended.captured = operation.reset s

theorem LastAttempt.guarantees {operation : Operation σ} {round : Round} {s : σ} {ended : Ended σ}
    (last : LastAttempt operation round s ended) : Guarantees operation s ended := by
  cases last with
  | beginFailed cause =>
    constructor <;> simp [Phase.isRun, Phase.isCommitted]
  | operationFailed ran =>
    constructor <;>
      simp [Phase.isRun, Phase.isCommit, Phase.isCommitted, maxTransactionAttempts, List.countP_cons, ran]
  | commitFailed cause ran =>
    constructor <;>
      simp [Phase.isRun, Phase.isCommit, Phase.isCommitted, maxTransactionAttempts, List.countP_cons, ran]
  | committed ran =>
    constructor <;>
      simp [Phase.isRun, Phase.isCommit, Phase.isCommitted, maxTransactionAttempts, List.countP_cons, ran]

/-- An earlier attempt that ended in a retryable error breaks nothing. -/
theorem LastAttempt.guarantees_after {operation : Operation σ} {first round : Round} {s captured : σ}
    {ended : Ended σ} {error : StoreError} (last : LastAttempt operation round s ended)
    (again : error.isRetryable = true)
    (ran : (operation.body (operation.reset s)).runUnder exec first.attempt.faults first.found =
      .error (error, captured)) :
    Guarantees operation s (ended.after [.ran first (.error (error, captured)), .rolledBack]) := by
  have guarantees := last.guarantees
  have runs : ended.trace.countP Phase.isRun ≤ 1 := by
    cases last <;> simp [Phase.isRun, List.countP_cons]
  refine
    { runs := ?_, order := ?_, success := ?_, once := ?_, fresh := ?_, effects := ?_
      clean := guarantees.clean }
  · simp only [Ended.after, List.countP_append, List.countP_cons, List.countP_nil, Phase.isRun,
      maxTransactionAttempts]
    simp only [if_true, Bool.false_eq_true, if_false]
    omega
  · refine List.pairwise_append.mpr ⟨by simp [Phase.isRun], guarantees.order, ?_⟩
    intro earlier inFirst later _
    rcases List.mem_cons.mp inFirst with rfl | inFirst
    · exact ⟨nofun, fun _ _ => again⟩
    · rw [List.mem_singleton.mp inFirst]
      exact ⟨nofun, nofun⟩
  · simpa [Ended.after, Phase.isCommitted, List.countP_cons] using guarantees.success
  · simpa [Ended.after, Phase.isCommitted, List.countP_cons] using guarantees.once
  · intro at' outcome member
    simp only [Ended.after, List.cons_append, List.nil_append, List.mem_cons, reduceCtorEq,
      false_or] at member
    rcases member with same | member
    · obtain ⟨rfl, rfl⟩ := Phase.ran.inj same
      exact ran.symm
    · exact guarantees.fresh at' outcome member
  · intro after member
    simp only [Ended.after, List.cons_append, List.nil_append, List.mem_cons, reduceCtorEq,
      false_or] at member
    obtain ⟨at', inTrace⟩ := guarantees.effects after member
    exact ⟨at', List.mem_append_right _ inTrace⟩

theorem inTxCaptured_guarantees (operation : Operation σ) (rounds : Nat → Round) (s : σ) :
    Guarantees operation s (inTxCaptured operation rounds s) := by
  rcases inTxCaptured_attempts operation rounds s with last | ⟨_, _, _, again, ran, last, same⟩
  · exact last.guarantees
  · rw [same]
    exact last.guarantees_after again ran

/-- The error that `inTx` returns; the last one is unreachable. -/
def TxFailure.error? : TxFailure → Option StoreError
  | .beginTransaction cause => some (.query "begin transaction" cause)
  | .operation error => some error
  | .commitTransaction cause => some (.query "commit transaction" cause)
  | .retryExhausted => none

/-- Two attempts that find the same state. -/
def roundsOn (db : Db) (first second : Attempt) (n : Nat) : Round :=
  ⟨db, if n = 0 then first else second⟩

/-- The answer `inTx` gives for a call that ended this way. -/
inductive Ended.Answers (ended : Ended σ) (db : Db) : Except StoreError (Unit × σ) × Db → Prop where
  | success {after : Db} (isNone : ended.failure = none) (inTrace : .committed after ∈ ended.trace) :
      Answers ended db (.ok ((), ended.captured), after)
  | failure {failure : TxFailure} {error : StoreError} (isSome : ended.failure = some failure)
      (isError : failure.error? = some error) : Answers ended db (.error error, db)

theorem Ended.Answers.after {ended : Ended σ} {db : Db} {answer : Except StoreError (Unit × σ) × Db}
    (answers : ended.Answers db answer) (earlier : List (Phase σ)) :
    (ended.after earlier).Answers db answer := by
  cases answers with
  | success isNone inTrace => exact .success isNone (List.mem_append_right _ inTrace)
  | failure isSome isError => exact .failure isSome isError

/-- One turn of the loop, against `attemptTx`. -/
theorem inTxFrom_answers (operation : Operation σ) (rounds : Nat → Round) (left attempt : Nat) (s : σ) :
    match attemptTx (operation.body.erase (operation.reset s)) (rounds attempt).attempt
        (rounds attempt).found with
    | .committed value after =>
      (inTxFrom operation rounds (left + 1) attempt s).Answers (rounds attempt).found (.ok value, after)
    | .boundaryFailed error =>
      (inTxFrom operation rounds (left + 1) attempt s).Answers (rounds attempt).found
        (.error error, (rounds attempt).found)
    | .operationFailed error =>
      if attempt == 0 && error.isRetryable then
        ∃ captured earlier, inTxFrom operation rounds (left + 1) attempt s =
          (inTxFrom operation rounds left (attempt + 1) captured).after earlier
      else
        (inTxFrom operation rounds (left + 1) attempt s).Answers (rounds attempt).found
          (.error error, (rounds attempt).found) := by
  rw [inTxFrom, attemptTx, Captured.erase, Program.runUnder_mapError]
  simp only
  cases (rounds attempt).attempt.beginFault with
  | some cause => exact .failure rfl rfl
  | none =>
    cases (operation.body (operation.reset s)).runUnder exec (rounds attempt).attempt.faults
        (rounds attempt).found with
    | error failed =>
      obtain ⟨error, captured⟩ := failed
      simp only [Except.mapError]
      by_cases again : (attempt == 0 && error.isRetryable) = true
      · rw [if_pos again, if_pos again]
        exact ⟨captured, _, rfl⟩
      · rw [if_neg again, if_neg again]
        exact .failure rfl rfl
    | ok ended =>
      obtain ⟨⟨⟨⟩, captured⟩, after⟩ := ended
      simp only [Except.mapError]
      cases (rounds attempt).attempt.commitFault with
      | some cause => exact .failure rfl rfl
      | none =>
        apply Ended.Answers.success
        · rfl
        · simp

/-- Without its variables the helper is `inTx`. -/
theorem inTxCaptured_answers (operation : Operation σ) (db : Db) (first second : Attempt) (s : σ) :
    (inTxCaptured operation (roundsOn db first second) s).Answers db
      (inTx (operation.body.erase (operation.reset s)) first second db) := by
  have turn := inTxFrom_answers operation (roundsOn db first second) 1 0 s
  rw [show (roundsOn db first second 0).attempt = first from rfl,
    show (roundsOn db first second 0).found = db from rfl] at turn
  rw [inTx]
  cases attempted : attemptTx (operation.body.erase (operation.reset s)) first db with
  | committed value after =>
    rw [attempted] at turn
    exact turn
  | boundaryFailed error =>
    rw [attempted] at turn
    exact turn
  | operationFailed error =>
    rw [attempted] at turn
    simp only [beq_self_eq_true, Bool.true_and] at turn ⊢
    by_cases again : error.isRetryable = true
    · rw [if_pos again] at turn ⊢
      obtain ⟨captured, earlier, isNext⟩ := turn
      -- The second attempt starts with the same variables, and it is the last one.
      have next := inTxFrom_answers operation (roundsOn db first second) 0 1 captured
      rw [show (roundsOn db first second 1).attempt = second from rfl,
        show (roundsOn db first second 1).found = db from rfl, operation.forgets captured s] at next
      rw [show inTxCaptured operation (roundsOn db first second) s = _ from isNext]
      refine Ended.Answers.after ?_ earlier
      cases ended : attemptTx (operation.body.erase (operation.reset s)) second db with
      | committed value after =>
        rw [ended] at next
        exact next
      | boundaryFailed error =>
        rw [ended] at next
        exact next
      | operationFailed error =>
        rw [ended] at next
        exact next
    · rw [if_neg again] at turn ⊢
      exact turn

end Helper

end OneIssuer.Store
