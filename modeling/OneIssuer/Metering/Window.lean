import Mathlib.Algebra.Order.Field.Rat
import Mathlib.Tactic.Linarith
import Mathlib.Tactic.Ring

/-!
# Metered calls

A machine answers calls with yes or no, and every call carries its time. A level meters some of the calls
when it is at most `burst`, grows with time at most at `rate`, is never negative, and pays one unit for
each metered yes. Then every window of time sees at most what a full level and its growth can pay for,
whatever the machine does in between (`Meters.window`).
-/

set_option autoImplicit false

namespace Metering

variable {σ α : Type}

/-- How many of the calls that `counted` names are answered with yes. -/
def admitted (step : σ → α → Bool × σ) (counted : α → Bool) : σ → List α → Nat
  | _, [] => 0
  | s, call :: calls =>
    (if counted call && (step s call).1 then 1 else 0) + admitted step counted (step s call).2 calls

/-- The calls come in order, none before `now`. -/
def Ordered (time : α → Int) : Int → List α → Prop
  | _, [] => True
  | now, call :: calls => now ≤ time call ∧ Ordered time (time call) calls

instance (time : α → Int) : (now : Int) → (calls : List α) → Decidable (Ordered time now calls)
  | _, [] => .isTrue trivial
  | now, call :: calls =>
    have := instDecidableOrdered time (time call) calls
    inferInstanceAs (Decidable (now ≤ time call ∧ Ordered time (time call) calls))

theorem ordered_replicate_append {time : α → Int} {call : α} {calls : List α} (n : Nat) {now : Int}
    (early : now ≤ time call) (ordered : ∀ now, now ≤ time call → Ordered time now calls) :
    Ordered time now (List.replicate n call ++ calls) := by
  induction n generalizing now with
  | zero => exact ordered now early
  | succ n ih => exact ⟨early, ih le_rfl⟩

/-- The machine after the calls. -/
def after (step : σ → α → Bool × σ) : σ → List α → σ
  | s, [] => s
  | s, call :: calls => after step (step s call).2 calls

/-- What every call keeps holds after every sequence of calls. -/
theorem after_invariant {step : σ → α → Bool × σ} {legal : α → Prop} {holds : σ → Prop}
    (keeps : ∀ s call, legal call → holds s → holds (step s call).2) :
    ∀ (calls : List α) (s : σ), holds s → (∀ call ∈ calls, legal call) → holds (after step s calls)
  | [], _, held, _ => held
  | call :: calls, s, held, allowed =>
    after_invariant keeps calls (step s call).2 (keeps s call (allowed call List.mem_cons_self) held)
      fun other member => allowed other (List.mem_cons_of_mem _ member)

/-- The level meters the `chosen` calls of a machine, as long as the invariant holds and the calls are
`legal`. -/
structure Meters (step : σ → α → Bool × σ) (time : α → Int) (legal chosen : α → Prop)
    (holds : σ → Int → Prop) (level : σ → Int → ℚ) (rate burst : ℚ) : Prop where
  nonneg : ∀ s now, holds s now → 0 ≤ level s now
  capped : ∀ s now, holds s now → level s now ≤ burst
  waits : ∀ s now later, holds s now → now ≤ later → holds s later
  grows : ∀ s now later, holds s now → now ≤ later →
    level s later ≤ level s now + rate * ((later - now : Int) : ℚ)
  keeps : ∀ s call, legal call → holds s (time call) → holds (step s call).2 (time call)
  pays : ∀ s call, legal call → holds s (time call) → chosen call → (step s call).1 = true →
    level (step s call).2 (time call) + 1 ≤ level s (time call)
  spares : ∀ s call, legal call → holds s (time call) →
    level (step s call).2 (time call) ≤ level s (time call)

section Window

variable {step : σ → α → Bool × σ} {time : α → Int} {legal chosen : α → Prop}
  {holds : σ → Int → Prop} {level : σ → Int → ℚ} {rate burst : ℚ} {counted : α → Bool}
  {start length : Int}

/-- After the window nothing is counted. -/
theorem admitted_after (inside : ∀ call, counted call = true → time call ≤ start + length) :
    ∀ (calls : List α) (s : σ) (now : Int), start + length < now → Ordered time now calls →
      admitted step counted s calls = 0
  | [], _, _, _, _ => rfl
  | call :: calls, s, now, late, ordered => by
    have uncounted : counted call = false := by
      by_contra isCounted
      have bound := inside call (by simpa using isCounted)
      have := ordered.1
      omega
    have rest := admitted_after inside calls (step s call).2 (time call) (late.trans_le ordered.1)
      ordered.2
    simp [admitted, uncounted, rest]

/-- Inside the window the level pays for what is counted. -/
theorem Meters.inside (meters : Meters step time legal chosen holds level rate burst)
    (rateNonneg : 0 ≤ rate)
    (counts : ∀ call, counted call = true → chosen call ∧ time call ≤ start + length) :
    ∀ (calls : List α) (s : σ) (now : Int), holds s now → now ≤ start + length →
      Ordered time now calls → (∀ call ∈ calls, legal call) →
      (admitted step counted s calls : ℚ) ≤
        level s now + rate * ((start + length - now : Int) : ℚ)
  | [], s, now, held, early, _, _ => by
    have room : (0 : ℚ) ≤ ((start + length - now : Int) : ℚ) := by exact_mod_cast (by omega)
    have growth := mul_nonneg rateNonneg room
    have paid := meters.nonneg s now held
    simp only [admitted, Nat.cast_zero]
    linarith
  | call :: calls, s, now, held, early, ordered, allowed => by
    have lawful := allowed call List.mem_cons_self
    have heldThen := meters.waits s now (time call) held ordered.1
    have grown := meters.grows s now (time call) held ordered.1
    by_cases late : start + length < time call
    · have uncounted : admitted step counted s (call :: calls) = 0 :=
        admitted_after (fun call isCounted => (counts call isCounted).2) (call :: calls) s (time call)
          late ⟨le_rfl, ordered.2⟩
      have room : (0 : ℚ) ≤ ((start + length - now : Int) : ℚ) := by exact_mod_cast (by omega)
      have growth := mul_nonneg rateNonneg room
      have paid := meters.nonneg s now held
      rw [uncounted, Nat.cast_zero]
      linarith
    · have rest := meters.inside rateNonneg counts calls (step s call).2 (time call)
        (meters.keeps s call lawful heldThen) (by omega) ordered.2
        (fun other member => allowed other (List.mem_cons_of_mem _ member))
      -- One call is paid for by the level, at the time of the call.
      have paid : ((if counted call && (step s call).1 then 1 else 0 : Nat) : ℚ) +
          level (step s call).2 (time call) ≤ level s (time call) := by
        split
        · rename_i counted
          obtain ⟨isCounted, answered⟩ := Bool.and_eq_true_iff.mp counted
          have spent := meters.pays s call lawful heldThen (counts call isCounted).1 answered
          push_cast
          linarith
        · have spared := meters.spares s call lawful heldThen
          push_cast
          linarith
      have spread : rate * ((start + length - now : Int) : ℚ) =
          rate * ((time call - now : Int) : ℚ) +
            rate * ((start + length - time call : Int) : ℚ) := by
        push_cast
        ring
      rw [admitted, Nat.cast_add, spread]
      linarith

/-- In every window at most `burst + rate * length` calls are answered with yes. -/
theorem Meters.window (meters : Meters step time legal chosen holds level rate burst)
    (rateNonneg : 0 ≤ rate) (forward : 0 ≤ length)
    (counts : ∀ call, counted call = true →
      chosen call ∧ start ≤ time call ∧ time call ≤ start + length) :
    ∀ (calls : List α) (s : σ) (now : Int), holds s now → Ordered time now calls →
      (∀ call ∈ calls, legal call) →
      (admitted step counted s calls : ℚ) ≤ burst + rate * (length : ℚ) := by
  have counted' : ∀ call, counted call = true → chosen call ∧ time call ≤ start + length :=
    fun call isCounted => ⟨(counts call isCounted).1, (counts call isCounted).2.2⟩
  -- From a state inside the window on, the level is at most full.
  have within : ∀ (calls : List α) (s : σ) (now : Int), holds s now → start ≤ now →
      Ordered time now calls → (∀ call ∈ calls, legal call) →
      (admitted step counted s calls : ℚ) ≤ burst + rate * (length : ℚ) := by
    intro calls s now held late ordered allowed
    have growth : 0 ≤ rate * (length : ℚ) := mul_nonneg rateNonneg (by exact_mod_cast forward)
    have full := meters.capped s now held
    have level_nonneg := meters.nonneg s now held
    by_cases early : now ≤ start + length
    · have bound := meters.inside rateNonneg counted' calls s now held early ordered allowed
      have shorter : rate * ((start + length - now : Int) : ℚ) ≤ rate * (length : ℚ) := by
        apply mul_le_mul_of_nonneg_left _ rateNonneg
        exact_mod_cast (by omega)
      linarith
    · rw [admitted_after (fun call isCounted => (counted' call isCounted).2) calls s now (by omega)
        ordered, Nat.cast_zero]
      linarith
  intro calls
  induction calls with
  | nil =>
    intro s now held ordered allowed
    have growth : 0 ≤ rate * (length : ℚ) := mul_nonneg rateNonneg (by exact_mod_cast forward)
    have full := meters.capped s now held
    have level_nonneg := meters.nonneg s now held
    simp only [admitted, Nat.cast_zero]
    linarith
  | cons call calls ih =>
    intro s now held ordered allowed
    by_cases early : time call < start
    · have uncounted : counted call = false := by
        by_contra isCounted
        have := (counts call (by simpa using isCounted)).2.1
        omega
      have lawful := allowed call List.mem_cons_self
      have heldThen := meters.waits s now (time call) held ordered.1
      have rest := ih (step s call).2 (time call) (meters.keeps s call lawful heldThen) ordered.2
        (fun other member => allowed other (List.mem_cons_of_mem _ member))
      simpa [admitted, uncounted] using rest
    · exact within (call :: calls) s (max now start)
        (meters.waits s now _ held (le_max_left _ _)) (le_max_right _ _)
        ⟨by have := ordered.1; omega, ordered.2⟩ allowed

end Window

end Metering
