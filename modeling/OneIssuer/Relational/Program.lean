import Mathlib.Logic.Basic

/-!
# Transaction programs

A transaction body is a tree: it ends with a value, ends with an error, or runs one statement
and continues with the statement's answer. The tree does not say what a statement does to a
state; an executor `exec` says that, and `Program.run` threads the state through the tree. One
body can therefore be run as a whole, run under injected faults, or run statement by statement
between the statements of other transactions.

Two kinds of rules come with it. `Program.run_bind` and its relatives compute a run. The
relational rule `Program.run_rel` lifts what every statement guarantees to what every body
guarantees, and `Program.Only` restricts it to the statements a body can reach.

Nothing here depends on what the states, the statements or the errors are.
-/

set_option autoImplicit false

universe u

namespace Relational

/-- A transaction body over statements `Q`. A statement fails with `φ`; the body names, per
statement, how such a failure becomes its own error `ε`. -/
inductive Program (Q : Type → Type u) (φ ε α : Type) : Type (max 1 u) where
  | done (value : α) : Program Q φ ε α
  | fail (error : ε) : Program Q φ ε α
  | ask {β : Type} (statement : Q β) (wrap : φ → ε) (next : β → Program Q φ ε α) :
      Program Q φ ε α

namespace Program

variable {Q : Type → Type u} {φ ε σ α β γ : Type}

/-- Sequencing: the second body starts where the first one ends with a value. -/
def bind : Program Q φ ε α → (α → Program Q φ ε β) → Program Q φ ε β
  | done value, rest => rest value
  | fail error, _ => fail error
  | ask statement wrap next, rest => ask statement wrap fun answer => (next answer).bind rest

instance : Monad (Program Q φ ε) where
  pure := done
  bind := bind

theorem pure_def (value : α) : (pure value : Program Q φ ε α) = done value := rfl

theorem bind_def (first : Program Q φ ε α) (rest : α → Program Q φ ε β) :
    first >>= rest = first.bind rest := rfl

/-- One statement, its failure wrapped. -/
def call (statement : Q α) (wrap : φ → ε) : Program Q φ ε α := ask statement wrap done

/-- Goes on only when `condition` holds. -/
def require (condition : Bool) (error : ε) : Program Q φ ε Unit :=
  if condition then done () else fail error

/-- Goes on only when there is a row. -/
def need (row : Option α) (error : ε) : Program Q φ ε α :=
  match row with
  | some value => done value
  | none => fail error

/-- The answer of a pure computation that may fail. -/
def ofExcept : Except ε α → Program Q φ ε α
  | .ok value => done value
  | .error error => fail error

/-- Runs one body per element, in order. -/
def each (body : α → Program Q φ ε Unit) : List α → Program Q φ ε Unit
  | [] => done ()
  | item :: rest => (body item).bind fun _ => each body rest

/-! ## Running a body -/

section Run

variable (exec : ⦃β : Type⦄ → Q β → σ → Except φ (β × σ))

/-- Runs a body on a state. An error carries no state: what the body wrote is rolled back. -/
def run : Program Q φ ε α → σ → Except ε (α × σ)
  | done value, s => .ok (value, s)
  | fail error, _ => .error error
  | ask statement wrap next, s =>
    match exec statement s with
    | .ok (answer, s') => (next answer).run s'
    | .error failure => .error (wrap failure)

/-- What a caller sees and what the store holds after one atomic attempt. -/
def commit (body : Program Q φ ε α) (s : σ) : Except ε α × σ :=
  match body.run exec s with
  | .ok (value, s') => (.ok value, s')
  | .error error => (.error error, s)

/-- Runs a body while the environment makes statements fail: the `n`-th statement fails with the
`n`-th fault, if there is one, before it does anything. -/
def runUnder : Program Q φ ε α → List (Option φ) → σ → Except ε (α × σ)
  | done value, _, s => .ok (value, s)
  | fail error, _, _ => .error error
  | ask statement wrap next, faults, s =>
    match faults.headD none with
    | some failure => .error (wrap failure)
    | none =>
      match exec statement s with
      | .ok (answer, s') => (next answer).runUnder faults.tail s'
      | .error failure => .error (wrap failure)

@[simp] theorem run_pure (value : α) (s : σ) :
    (pure value : Program Q φ ε α).run exec s = .ok (value, s) := rfl

@[simp] theorem run_done (value : α) (s : σ) :
    (done value : Program Q φ ε α).run exec s = .ok (value, s) := rfl

@[simp] theorem run_fail (error : ε) (s : σ) :
    (fail error : Program Q φ ε α).run exec s = .error error := rfl

theorem run_ask (statement : Q β) (wrap : φ → ε) (next : β → Program Q φ ε α) (s : σ) :
    (ask statement wrap next).run exec s =
      match exec statement s with
      | .ok (answer, s') => (next answer).run exec s'
      | .error failure => .error (wrap failure) := by
  rw [run]

/-- A sequence runs its parts one after the other. -/
theorem run_bind (first : Program Q φ ε α) (rest : α → Program Q φ ε β) (s : σ) :
    (first >>= rest).run exec s =
      match first.run exec s with
      | .ok (value, s') => (rest value).run exec s'
      | .error error => .error error := by
  induction first generalizing s with
  | done value => rfl
  | fail error => rfl
  | ask statement wrap next ih =>
    simp only [bind_def, bind, run_ask]
    cases exec statement s with
    | error failure => rfl
    | ok answered => exact ih answered.1 answered.2

/-- Inversion of a successful sequence: both parts succeeded, the second where the first ended. -/
theorem run_bind_ok {first : Program Q φ ε α} {rest : α → Program Q φ ε β} {s : σ}
    {result : β × σ} :
    (first >>= rest).run exec s = .ok result ↔
      ∃ value s', first.run exec s = .ok (value, s') ∧ (rest value).run exec s' = .ok result := by
  rw [run_bind]
  cases first.run exec s with
  | error error => simp
  | ok ended =>
    constructor
    · intro ran
      exact ⟨ended.1, ended.2, rfl, ran⟩
    · rintro ⟨value, s', same, ran⟩
      cases same
      exact ran

/-- A loop runs its first body and then the rest. -/
theorem run_each_ok {body : α → Program Q φ ε Unit} {item : α} {rest : List α} {s t : σ} :
    (each body (item :: rest)).run exec s = .ok ((), t) ↔
      ∃ s', (body item).run exec s = .ok ((), s') ∧ (each body rest).run exec s' = .ok ((), t) := by
  show ((body item) >>= fun _ => each body rest).run exec s = .ok ((), t) ↔ _
  rw [run_bind_ok]
  exact ⟨fun ⟨_, s', first, others⟩ => ⟨s', first, others⟩,
    fun ⟨s', first, others⟩ => ⟨(), s', first, others⟩⟩

/-- A failed sequence failed in its first part, or in its second where the first ended. -/
theorem run_bind_error {first : Program Q φ ε α} {rest : α → Program Q φ ε β} {s : σ} {error : ε} :
    (first >>= rest).run exec s = .error error ↔
      first.run exec s = .error error ∨
        ∃ value s', first.run exec s = .ok (value, s') ∧ (rest value).run exec s' = .error error := by
  rw [run_bind]
  cases first.run exec s with
  | error failure => simp
  | ok ended =>
    constructor
    · intro failed
      exact Or.inr ⟨ended.1, ended.2, rfl, failed⟩
    · rintro (failed | ⟨value, s', same, failed⟩)
      · cases failed
      · cases same
        exact failed

/-- Without faults a body runs alone. -/
theorem runUnder_nil (body : Program Q φ ε α) (s : σ) :
    body.runUnder exec [] s = body.run exec s := by
  induction body generalizing s with
  | done value => rfl
  | fail error => rfl
  | ask statement wrap next ih =>
    rw [runUnder, run_ask]
    cases exec statement s with
    | error failure => rfl
    | ok answered => exact ih answered.1 answered.2

/-- A body that ends with a value under faults met none of them. -/
theorem run_of_runUnder {body : Program Q φ ε α} {faults : List (Option φ)} {s : σ}
    {result : α × σ} (ran : body.runUnder exec faults s = .ok result) :
    body.run exec s = .ok result := by
  induction body generalizing faults s with
  | done value => exact ran
  | fail error => cases ran
  | ask statement wrap next ih =>
    rw [runUnder] at ran
    rw [run_ask]
    cases fault : faults.headD none with
    | some failure =>
      rw [fault] at ran
      cases ran
    | none =>
      rw [fault] at ran
      cases executed : exec statement s with
      | error failure =>
        rw [executed] at ran
        cases ran
      | ok answered =>
        rw [executed] at ran
        exact ih answered.1 ran

@[simp] theorem run_call_ok {statement : Q α} {wrap : φ → ε} {s : σ} {result : α × σ} :
    (call statement wrap : Program Q φ ε α).run exec s = .ok result ↔
      exec statement s = .ok result := by
  rw [call, run_ask]
  cases exec statement s with
  | error failure => simp
  | ok answered => simp

theorem run_require (condition : Bool) (error : ε) (s : σ) :
    (require condition error : Program Q φ ε Unit).run exec s =
      if condition then .ok ((), s) else .error error := by
  cases condition <;> rfl

/-- The program ends in a value and a state that pass the test. -/
def passes (program : Program Q φ ε α) (s : σ) (test : α → σ → Bool) : Bool :=
  match program.run exec s with
  | .ok (value, s') => test value s'
  | .error _ => false

theorem passes_iff {program : Program Q φ ε α} {s : σ} {test : α → σ → Bool} :
    program.passes exec s test ↔
      ∃ value s', program.run exec s = .ok (value, s') ∧ test value s' := by
  rw [passes]
  cases program.run exec s with
  | error failure => simp
  | ok ended =>
    constructor
    · intro passed
      exact ⟨ended.1, ended.2, rfl, passed⟩
    · rintro ⟨value, s', same, passed⟩
      cases same
      exact passed

@[simp] theorem run_require_ok {condition : Bool} {error : ε} {s : σ} {result : Unit × σ} :
    (require condition error : Program Q φ ε Unit).run exec s = .ok result ↔
      condition = true ∧ result.2 = s := by
  rw [run_require]
  obtain ⟨⟨⟩, s'⟩ := result
  cases condition <;> simp [eq_comm]

theorem run_need (row : Option α) (error : ε) (s : σ) :
    (need row error : Program Q φ ε α).run exec s =
      match row with
      | some value => .ok (value, s)
      | none => .error error := by
  cases row <;> rfl

@[simp] theorem run_need_ok {row : Option α} {error : ε} {s : σ} {result : α × σ} :
    (need row error : Program Q φ ε α).run exec s = .ok result ↔
      row = some result.1 ∧ result.2 = s := by
  rw [run_need]
  obtain ⟨value, s'⟩ := result
  cases row <;> simp [eq_comm]

@[simp] theorem run_ofExcept_ok {outcome : Except ε α} {s : σ} {result : α × σ} :
    (ofExcept outcome : Program Q φ ε α).run exec s = .ok result ↔
      outcome = .ok result.1 ∧ result.2 = s := by
  obtain ⟨value, s'⟩ := result
  cases outcome <;> simp [ofExcept, eq_comm]

@[simp] theorem run_pure_ok {value : α} {s : σ} {result : α × σ} :
    (pure value : Program Q φ ε α).run exec s = .ok result ↔ result = (value, s) := by
  simp [eq_comm]

end Run

/-! ## Which statements a body can reach -/

/-- Every statement the body can reach, whatever the answers, is `allowed`. -/
def Only (allowed : ⦃β : Type⦄ → Q β → Prop) : Program Q φ ε α → Prop
  | done _ => True
  | fail _ => True
  | ask statement _ next => allowed statement ∧ ∀ answer, (next answer).Only allowed

section Only

variable {allowed : ⦃β : Type⦄ → Q β → Prop}

@[simp] theorem only_pure (value : α) : (pure value : Program Q φ ε α).Only allowed := trivial

@[simp] theorem only_fail (error : ε) : (fail error : Program Q φ ε α).Only allowed := trivial

@[simp] theorem only_call (statement : Q α) (wrap : φ → ε) :
    (call statement wrap : Program Q φ ε α).Only allowed ↔ allowed statement :=
  ⟨fun reached => reached.1, fun permitted => ⟨permitted, fun _ => trivial⟩⟩

@[simp] theorem only_require (condition : Bool) (error : ε) :
    (require condition error : Program Q φ ε Unit).Only allowed := by
  cases condition <;> trivial

@[simp] theorem only_need (row : Option α) (error : ε) :
    (need row error : Program Q φ ε α).Only allowed := by
  cases row <;> trivial

@[simp] theorem only_ofExcept (outcome : Except ε α) :
    (ofExcept outcome : Program Q φ ε α).Only allowed := by
  cases outcome <;> trivial

@[simp] theorem only_ite {condition : Prop} [Decidable condition] {yes no : Program Q φ ε α} :
    (if condition then yes else no).Only allowed ↔
      (condition → yes.Only allowed) ∧ (¬ condition → no.Only allowed) := by
  by_cases holds : condition <;> simp [holds]

theorem Only.bind {first : Program Q φ ε α} {rest : α → Program Q φ ε β}
    (reached : first.Only allowed) (continued : ∀ value, (rest value).Only allowed) :
    (first >>= rest).Only allowed := by
  induction first with
  | done value => exact continued value
  | fail error => trivial
  | ask statement wrap next ih => exact ⟨reached.1, fun answer => ih answer (reached.2 answer)⟩

theorem Only.each {body : α → Program Q φ ε Unit} (reached : ∀ item, (body item).Only allowed)
    (items : List α) : (Program.each body items).Only allowed := by
  induction items with
  | nil => trivial
  | cons item rest ih => exact Only.bind (reached item) fun _ => ih

theorem only_true (body : Program Q φ ε α) : body.Only fun _ _ => True := by
  induction body with
  | done value => trivial
  | fail error => trivial
  | ask statement wrap next ih => exact ⟨trivial, ih⟩

theorem Only.mono {permitted : ⦃β : Type⦄ → Q β → Prop} {body : Program Q φ ε α}
    (reached : body.Only allowed)
    (widens : ∀ ⦃β : Type⦄ (statement : Q β), allowed statement → permitted statement) :
    body.Only permitted := by
  induction body with
  | done value => trivial
  | fail error => trivial
  | ask statement wrap next ih =>
    exact ⟨widens statement reached.1, fun answer => ih answer (reached.2 answer)⟩

end Only

/-! ## From statements to bodies -/

section Rules

variable {exec : ⦃β : Type⦄ → Q β → σ → Except φ (β × σ)}

/-- If every statement a body can reach moves the state along a preorder, so does the body. With
`R s s' := P s → P s'` this is the rule for an invariant `P`. -/
theorem run_rel {allowed : ⦃β : Type⦄ → Q β → Prop} {R : σ → σ → Prop} (refl : ∀ s, R s s)
    (trans : ∀ a b c, R a b → R b c → R a c)
    (moves : ∀ ⦃β : Type⦄ (statement : Q β) (s : σ) (answer : β) (s' : σ), allowed statement →
      exec statement s = .ok (answer, s') → R s s')
    {body : Program Q φ ε α} (reached : body.Only allowed) {s s' : σ} {value : α}
    (ran : body.run exec s = .ok (value, s')) : R s s' := by
  induction body generalizing s with
  | done ended =>
    cases ran
    exact refl _
  | fail error => cases ran
  | ask statement wrap next ih =>
    rw [run_ask] at ran
    cases executed : exec statement s with
    | error failure =>
      rw [executed] at ran
      cases ran
    | ok answered =>
      rw [executed] at ran
      exact trans _ _ _ (moves statement s answered.1 answered.2 reached.1 executed)
        (ih answered.1 (reached.2 answered.1) ran)

/-- Two runs of a body whose statements agree wherever both succeed. `across` carries the state of
the first run to the state of the second. -/
theorem run_agree {allowed : ⦃β : Type⦄ → Q β → Prop} {across : σ → σ}
    (agree : ∀ ⦃β : Type⦄ (statement : Q β) (s : σ) (answer other : β) (s' t : σ),
      allowed statement → exec statement s = .ok (answer, s') →
      exec statement (across s) = .ok (other, t) → other = answer ∧ t = across s')
    {body : Program Q φ ε α} (reached : body.Only allowed) {s s' t : σ} {value other : α}
    (ran : body.run exec s = .ok (value, s')) (ranAcross : body.run exec (across s) = .ok (other, t)) :
    other = value ∧ t = across s' := by
  induction body generalizing s with
  | done ended =>
    cases ran
    cases ranAcross
    exact ⟨rfl, rfl⟩
  | fail error => cases ran
  | ask statement wrap next ih =>
    rw [run_ask] at ran ranAcross
    cases executed : exec statement s with
    | error failure =>
      rw [executed] at ran
      cases ran
    | ok answered =>
      cases executedAcross : exec statement (across s) with
      | error failure =>
        rw [executedAcross] at ranAcross
        cases ranAcross
      | ok answeredAcross =>
        rw [executed] at ran
        rw [executedAcross] at ranAcross
        obtain ⟨sameAnswer, sameState⟩ :=
          agree statement s _ _ _ _ reached.1 executed executedAcross
        simp only [sameAnswer, sameState] at ranAcross
        exact ih answered.1 (reached.2 answered.1) ran ranAcross

/-- A run goes through across when its last state is good: goodness is passed back to every state of
the run, and a statement that leads to a good state succeeds across. -/
theorem run_transfer {allowed : ⦃β : Type⦄ → Q β → Prop} {across : σ → σ} {good : σ → Prop}
    (back : ∀ ⦃β : Type⦄ (statement : Q β) (s : σ) (answer : β) (s' : σ), allowed statement →
      exec statement s = .ok (answer, s') → good s' → good s)
    (succeeds : ∀ ⦃β : Type⦄ (statement : Q β) (s : σ) (answer : β) (s' : σ), allowed statement →
      exec statement s = .ok (answer, s') → good s' →
      exec statement (across s) = .ok (answer, across s'))
    {body : Program Q φ ε α} (reached : body.Only allowed) {s s' : σ} {value : α}
    (ran : body.run exec s = .ok (value, s')) (isGood : good s') :
    body.run exec (across s) = .ok (value, across s') := by
  induction body generalizing s with
  | done ended =>
    cases ran
    rfl
  | fail error => cases ran
  | ask statement wrap next ih =>
    rw [run_ask] at ran ⊢
    cases executed : exec statement s with
    | error failure =>
      rw [executed] at ran
      cases ran
    | ok answered =>
      rw [executed] at ran
      have goodBetween : good answered.2 :=
        run_rel (fun _ => id) (fun _ _ _ early late last => early (late last)) back
          (reached.2 answered.1) ran isGood
      rw [succeeds statement s answered.1 answered.2 reached.1 executed goodBetween]
      exact ih answered.1 (reached.2 answered.1) ran

end Rules

/-! ## Two runs -/

section TwoRuns

/-- Two runs ended alike: with the same error, or with the same value in related states. -/
inductive Alike (R : σ → σ → Prop) : Except ε (α × σ) → Except ε (α × σ) → Prop where
  | ok (value : α) {s t : σ} (related : R s t) : Alike R (.ok (value, s)) (.ok (value, t))
  | error (failure : ε) : Alike R (.error failure) (.error failure)

variable {exec : ⦃β : Type⦄ → Q β → σ → Except φ (β × σ)} {R S : σ → σ → Prop} {s t : σ}

theorem Alike.bind {first : Program Q φ ε α} {rest : α → Program Q φ ε β}
    (alike : Alike R (first.run exec s) (first.run exec t))
    (continued : ∀ value s' t', R s' t' →
      Alike S ((rest value).run exec s') ((rest value).run exec t')) :
    Alike S ((first >>= rest).run exec s) ((first >>= rest).run exec t) := by
  rw [run_bind, run_bind]
  generalize first.run exec s = left at alike
  generalize first.run exec t = right at alike
  cases alike with
  | ok value related => exact continued value _ _ related
  | error failure => exact .error failure

theorem Alike.call {statement : Q α} (wrap : φ → ε)
    (alike : Alike R (exec statement s) (exec statement t)) :
    Alike R ((call statement wrap : Program Q φ ε α).run exec s)
      ((call statement wrap : Program Q φ ε α).run exec t) := by
  rw [Program.call, run_ask, run_ask]
  generalize exec statement s = left at alike
  generalize exec statement t = right at alike
  cases alike with
  | ok value related => exact .ok value related
  | error failure => exact .error (wrap failure)

theorem Alike.require (condition : Bool) (error : ε) (related : R s t) :
    Alike R ((require condition error : Program Q φ ε Unit).run exec s)
      ((require condition error : Program Q φ ε Unit).run exec t) := by
  cases condition with
  | true => exact .ok () related
  | false => exact .error error

theorem Alike.need (row : Option α) (error : ε) (related : R s t) :
    Alike R ((need row error : Program Q φ ε α).run exec s)
      ((need row error : Program Q φ ε α).run exec t) := by
  cases row with
  | some value => exact .ok value related
  | none => exact .error error

end TwoRuns

end Program

end Relational
