import OneIssuer.Relational.Program

/-!
# Callbacks with captured variables

A callback that a transaction helper runs may assign variables of its caller. A rollback takes back what
the callback did to the state, but not what it did to the variables: an error leaves them as they were
at the statement that failed. `Captured` makes this explicit, errors carry the variables.

`Captured.erase` forgets the variables again and gives a plain body. `Program.Appends` says what a body
adds to a log that is part of the state.
-/

set_option autoImplicit false

universe u

namespace Relational

variable {Q : Type → Type u} {φ ε δ σ τ α β γ ι : Type}

namespace Program

/-! ## Errors -/

/-- The body with its errors translated. -/
def mapError (f : ε → δ) : Program Q φ ε α → Program Q φ δ α
  | done value => done value
  | fail error => fail (f error)
  | ask statement wrap next => ask statement (fun failure => f (wrap failure)) fun answer =>
      (next answer).mapError f

theorem mapError_bind (f : ε → δ) (first : Program Q φ ε α) (rest : α → Program Q φ ε β) :
    (first.bind rest).mapError f = (first.mapError f).bind fun value => (rest value).mapError f := by
  induction first with
  | done value => rfl
  | fail error => rfl
  | ask statement wrap next ih =>
    simp only [bind, mapError]
    congr 1
    exact funext ih

/-- Translating errors there and back. -/
theorem mapError_mapError {f : ε → δ} {g : δ → ε} (back : ∀ error, g (f error) = error)
    (body : Program Q φ ε α) : (body.mapError f).mapError g = body := by
  induction body with
  | done value => rfl
  | fail error => exact congrArg fail (back error)
  | ask statement wrap next ih =>
    simp only [mapError, back]
    congr 1
    exact funext ih

theorem bind_assoc (first : Program Q φ ε α) (second : α → Program Q φ ε β)
    (third : β → Program Q φ ε γ) :
    (first.bind second).bind third = first.bind fun value => (second value).bind third := by
  induction first with
  | done value => rfl
  | fail error => rfl
  | ask statement wrap next ih =>
    simp only [bind]
    congr 1
    exact funext ih

theorem bind_done (body : Program Q φ ε α) : body.bind done = body := by
  induction body with
  | done value => rfl
  | fail error => rfl
  | ask statement wrap next ih =>
    simp only [bind]
    congr 1
    exact funext ih

theorem runUnder_mapError (exec : ⦃β : Type⦄ → Q β → τ → Except φ (β × τ)) (f : ε → δ)
    (body : Program Q φ ε α) (faults : List (Option φ)) (s : τ) :
    (body.mapError f).runUnder exec faults s = (body.runUnder exec faults s).mapError f := by
  induction body generalizing faults s with
  | done value => rfl
  | fail error => rfl
  | ask statement wrap next ih =>
    simp only [mapError, runUnder]
    cases faults.headD none with
    | some failure => rfl
    | none =>
      simp only
      cases exec statement s with
      | error failure => rfl
      | ok answered => exact ih answered.1 faults.tail answered.2

theorem run_mapError (exec : ⦃β : Type⦄ → Q β → τ → Except φ (β × τ)) (f : ε → δ)
    (body : Program Q φ ε α) (s : τ) :
    (body.mapError f).run exec s = (body.run exec s).mapError f := by
  rw [← runUnder_nil, ← runUnder_nil, runUnder_mapError]

/-! ## Logs -/

section Appends

variable (exec : ⦃β : Type⦄ → Q β → τ → Except φ (β × τ)) (log : τ → List ι)

/-- A run of the body that ends well only appends to the log; `post` relates its value and what it
appended. -/
def Appends (body : Program Q φ ε α) (post : α → List ι → Prop) : Prop :=
  ∀ s value s', body.run exec s = .ok (value, s') →
    ∃ items, log s' = log s ++ items ∧ post value items

variable {exec log}

theorem Appends.done {value : α} {post : α → List ι → Prop} (holds : post value []) :
    (done value : Program Q φ ε α).Appends exec log post := by
  intro s value s' ran
  obtain ⟨rfl, rfl⟩ := Prod.mk.inj (Except.ok.inj ran)
  exact ⟨[], (List.append_nil _).symm, holds⟩

theorem Appends.bind {first : Program Q φ ε α} {rest : α → Program Q φ ε β} {post : β → List ι → Prop}
    (appends : first.Appends exec log fun value items =>
      (rest value).Appends exec log fun ended more => post ended (items ++ more)) :
    (first.bind rest).Appends exec log post := by
  intro s value s' ran
  obtain ⟨middle, t, firstRan, restRan⟩ := (run_bind_ok exec).mp ran
  obtain ⟨items, isLog, continues⟩ := appends s middle t firstRan
  obtain ⟨more, isRest, holds⟩ := continues t value s' restRan
  exact ⟨items ++ more, by rw [isRest, isLog, List.append_assoc], holds⟩

theorem Appends.mapError {f : ε → δ} {body : Program Q φ ε α} {post : α → List ι → Prop}
    (appends : body.Appends exec log post) : (body.mapError f).Appends exec log post := by
  intro s value s' ran
  rw [run_mapError] at ran
  cases ended : body.run exec s with
  | error error =>
    rw [ended] at ran
    cases ran
  | ok result =>
    rw [ended] at ran
    cases ran
    exact appends s value s' ended

/-- A body whose statements leave the log alone appends nothing. -/
theorem Appends.silent {silent : ⦃β : Type⦄ → Q β → Prop}
    (keeps : ∀ ⦃β : Type⦄ (statement : Q β) (s : τ) (answer : β) (s' : τ), silent statement →
      exec statement s = .ok (answer, s') → log s' = log s)
    {body : Program Q φ ε α} (reached : body.Only silent) {post : α → List ι → Prop}
    (holds : ∀ value, post value []) : body.Appends exec log post := by
  intro s value s' ran
  have kept : log s' = log s := by
    induction body generalizing s with
    | done result =>
      obtain ⟨rfl, rfl⟩ := Prod.mk.inj (Except.ok.inj ran)
      rfl
    | fail error => cases ran
    | ask statement wrap next ih =>
      rw [run_ask] at ran
      cases executed : exec statement s with
      | error failure =>
        rw [executed] at ran
        cases ran
      | ok answered =>
        rw [executed] at ran
        exact (ih answered.1 (reached.2 answered.1) answered.2 ran).trans
          (keeps statement s answered.1 answered.2 reached.1 executed)
  exact ⟨[], by rw [kept, List.append_nil], holds value⟩

/-- One body per item, each of which appends one entry. -/
theorem Appends.each {body : α → Program Q φ ε Unit} {entry : α → ι}
    (appends : ∀ item, (body item).Appends exec log fun _ items => items = [entry item])
    (items : List α) :
    (each body items).Appends exec log fun _ appended => appended = items.map entry := by
  induction items with
  | nil => exact .done rfl
  | cons item rest ih =>
    refine .bind fun s value s' ran => ?_
    obtain ⟨first, isLog, rfl⟩ := appends item s value s' ran
    refine ⟨[entry item], isLog, fun t ended t' restRan => ?_⟩
    obtain ⟨more, isRest, rfl⟩ := ih t ended t' restRan
    exact ⟨_, isRest, rfl⟩

theorem Appends.mono {body : Program Q φ ε α} {post wider : α → List ι → Prop}
    (appends : body.Appends exec log post) (weaken : ∀ value items, post value items → wider value items) :
    body.Appends exec log wider := by
  intro s value s' ran
  obtain ⟨items, isLog, holds⟩ := appends s value s' ran
  exact ⟨items, isLog, weaken value items holds⟩

end Appends

end Program

/-! ## Captured variables -/

/-- A callback over the variables `σ`. -/
def Captured (Q : Type → Type u) (φ ε σ α : Type) : Type (max 1 u) :=
  σ → Program Q φ (ε × σ) (α × σ)

namespace Captured

instance : Monad (Captured Q φ ε σ) where
  pure value := fun s => .done (value, s)
  bind first rest := fun s => (first s).bind fun ended => rest ended.1 ended.2

/-- A body that assigns nothing. -/
def lift (body : Program Q φ ε α) : Captured Q φ ε σ α := fun s =>
  (body.mapError fun error => (error, s)).bind fun value => .done (value, s)

/-- An assignment. -/
def assign (f : σ → σ) : Captured Q φ ε σ Unit := fun s => .done ((), f s)

/-- The variables. -/
def current : Captured Q φ ε σ σ := fun s => .done (s, s)

theorem bind_apply (first : Captured Q φ ε σ α) (rest : α → Captured Q φ ε σ β) (s : σ) :
    (first >>= rest) s = (first s).bind fun ended => rest ended.1 ended.2 := rfl

theorem pure_apply (value : α) (s : σ) :
    (pure value : Captured Q φ ε σ α) s = .done (value, s) := rfl

/-! ### Forgetting the variables -/

/-- The body without its variables in the errors. -/
def erase (callback : Captured Q φ ε σ α) (s : σ) : Program Q φ ε (α × σ) :=
  (callback s).mapError Prod.fst

theorem erase_pure (value : α) (s : σ) :
    (pure value : Captured Q φ ε σ α).erase s = .done (value, s) := rfl

theorem erase_bind (first : Captured Q φ ε σ α) (rest : α → Captured Q φ ε σ β) (s : σ) :
    (first >>= rest).erase s = (first.erase s).bind fun ended => (rest ended.1).erase ended.2 :=
  Program.mapError_bind _ _ _

theorem erase_lift (body : Program Q φ ε α) (s : σ) :
    (lift body : Captured Q φ ε σ α).erase s = body.bind fun value => .done (value, s) := by
  rw [erase, lift, Program.mapError_bind, Program.mapError_mapError fun _ => rfl]
  rfl

theorem erase_assign (f : σ → σ) (s : σ) :
    (assign f : Captured Q φ ε σ Unit).erase s = .done ((), f s) := rfl

theorem erase_current (s : σ) : (current : Captured Q φ ε σ σ).erase s = .done (s, s) := rfl

theorem erase_ite {condition : Prop} [Decidable condition] (yes no : Captured Q φ ε σ α) (s : σ) :
    (if condition then yes else no).erase s = if condition then yes.erase s else no.erase s := by
  split <;> rfl

/-! ### Logs -/

section Logs

variable {exec : ⦃β : Type⦄ → Q β → τ → Except φ (β × τ)} {log : τ → List ι} {s : σ}

theorem appends_bind {first : Captured Q φ ε σ α} {rest : α → Captured Q φ ε σ β}
    {post : β × σ → List ι → Prop}
    (appends : (first s).Appends exec log fun ended items =>
      (rest ended.1 ended.2).Appends exec log fun last more => post last (items ++ more)) :
    ((first >>= rest) s).Appends exec log post := .bind appends

theorem appends_lift {body : Program Q φ ε α} {post : α × σ → List ι → Prop}
    (appends : body.Appends exec log fun value items => post (value, s) items) :
    ((lift body : Captured Q φ ε σ α) s).Appends exec log post := by
  refine .bind (appends.mapError.mono fun value items holds => .done ?_)
  rwa [List.append_nil]

end Logs

end Captured

end Relational
