import OneIssuer.Store.TokenSteps
import OneIssuer.Token.Mint

/-!
# Deadlines along a chain of refreshes

A code exchange gives a family its absolute deadline and its first generation an expiry; each refresh
gives the replacement an expiry that is computed from the absolute deadline in the table. The columns keep
whole microseconds, so a refresh sees the deadlines truncated and computes with its own time in
nanoseconds.

`refreshAll` follows the deadlines alone: it fails where a refresh fails because of a time or of the
number of a generation. `refreshOnce_of_exchange` says that the store rotates a generation as
`refreshOnce` does.

**What it does not establish.** That the generations are there and alive: those reasons to refuse a
refresh are in `RefreshEffects`.
-/

set_option autoImplicit false

namespace OneIssuer.Token

open OneIssuer.Store Relational

/-- The number and the times of a generation. -/
structure Generation where
  number : Int
  issuedAt : Time
  expiresAt : Time
  deriving DecidableEq, Repr

/-- What the columns keep of a generation. -/
def Generation.stored (generation : Generation) : Generation :=
  { generation with
    issuedAt := timestamp generation.issuedAt, expiresAt := timestamp generation.expiresAt }

/-- The times of a generation in the table. -/
def Generation.ofRow (row : RefreshToken) : Generation := ⟨row.generation, row.issuedAt, row.expiresAt⟩

/-- The replacement of a stored generation; `absolute` is the stored deadline of the family. -/
def refreshOnce (rollingTTL : Int) (absolute : Time) (presented : Generation) (now : Time) :
    Except StoreError Generation :=
  if presented.expiresAt ≤ now then .error .tokenInvalidGrant
  else do
    let expiresAt ← replacementRefreshExpiry now rollingTTL absolute
    -- `validRefreshMinted` stops a chain at the last number
    if presented.number == maxGeneration then .error .tokenInvalid
    else .ok ⟨presented.number + 1, now, expiresAt⟩

/-- The replacements that refreshes at these times make, one after the other. -/
def refreshAll (rollingTTL : Int) (absolute : Time) : Generation → List Time →
    Except StoreError (List Generation)
  | _, [] => .ok []
  | presented, now :: later => do
    let next ← refreshOnce rollingTTL absolute presented.stored now
    let others ← refreshAll rollingTTL absolute next later
    .ok (next :: others)

/-- A generation ends after it began, within 30 days and not after the deadline of its family. -/
structure Generation.Capped (generation : Generation) (absolute : Time) : Prop where
  lasts : generation.issuedAt < generation.expiresAt
  inside : generation.expiresAt ≤ absolute
  short : generation.expiresAt ≤ Zone.utc.plusDays generation.issuedAt 30

/-- Every refresh comes at least a microsecond before the rolling lifetime since the last one is over, and
before the deadline. -/
def Spaced (rollingTTL : Int) (deadline : Time) : Time → List Time → Prop
  | _, [] => True
  | last, now :: later =>
    now ≠ 0 ∧ now < deadline ∧ now + microseconds 1 ≤ last + rollingTTL ∧ Spaced rollingTTL deadline now later

/-! ## One refresh -/

section Refreshes

variable {rollingTTL absoluteTTL : Int} {absolute now created : Time} {presented next : Generation}

theorem refreshDeadlines_eq {expires : Time}
    (accepted : refreshDeadlines created rollingTTL absoluteTTL = .ok (expires, absolute)) :
    refreshLifetimesValid rollingTTL absoluteTTL ∧ expires = created + rollingTTL ∧
      absolute = created + absoluteTTL := by
  by_cases refused : (created.isZero || !decide (refreshLifetimesValid rollingTTL absoluteTTL)) = true
  · rw [refreshDeadlines, if_pos refused] at accepted
    cases accepted
  · simp only [Time.isZero, Bool.or_eq_true, beq_iff_eq, Bool.not_eq_true', decide_eq_false_iff_not, not_or,
      not_not] at refused
    rw [refreshDeadlines_ok refused.2 refused.1] at accepted
    cases accepted
    exact ⟨refused.2, rfl, rfl⟩

/-- When a generation is replaced, and by what. -/
theorem refreshOnce_ok (valid : refreshLifetimesValid rollingTTL absoluteTTL) :
    refreshOnce rollingTTL absolute presented now = .ok next ↔
      now < presented.expiresAt ∧ now ≠ 0 ∧ absolute ≠ 0 ∧ now < absolute ∧
        presented.number ≠ maxGeneration ∧
        next = ⟨presented.number + 1, now, min (now + rollingTTL) absolute⟩ := by
  by_cases expired : presented.expiresAt ≤ now
  · simp only [refreshOnce, expired, if_true, reduceCtorEq, false_iff, not_and]
    exact fun before => absurd expired (not_le.mpr before)
  by_cases late : now = 0 ∨ absolute = 0 ∨ absolute ≤ now
  · have refused : replacementRefreshExpiry now rollingTTL absolute = .error .tokenInvalidGrant := by
      rw [replacementRefreshExpiry, if_pos]
      simp only [Time.isZero, Bool.or_eq_true, beq_iff_eq, decide_eq_true_eq]
      tauto
    simp only [refreshOnce, expired, if_false, refused]
    simp only [bind, Except.bind, reduceCtorEq, false_iff]
    rintro ⟨-, notZero, absoluteNotZero, before, -⟩
    rcases late with isZero | isZero | isLate
    · exact notZero isZero
    · exact absoluteNotZero isZero
    · exact absurd before (not_lt.mpr isLate)
  · simp only [not_or, not_le] at late
    obtain ⟨notZero, absoluteNotZero, before⟩ := late
    simp only [refreshOnce, expired, if_false,
      replacementRefreshExpiry_ok valid notZero absoluteNotZero before]
    by_cases last : presented.number = maxGeneration
    · simp [bind, Except.bind, last]
    · have counted : (presented.number == maxGeneration) = false := beq_eq_false_iff_ne.mpr last
      simp only [bind, Except.bind, counted, Bool.false_eq_true, if_false, Except.ok.injEq]
      constructor
      · rintro rfl
        exact ⟨not_le.mp expired, notZero, absoluteNotZero, before, last, rfl⟩
      · rintro ⟨-, -, -, -, -, rfl⟩
        rfl

/-- The store rotates a generation as the deadlines say. -/
theorem refreshOnce_of_exchange {sha : Sha256} {service : MintingService} {entropy : RefreshEntropy}
    {db after : Db}
    (sound : db.Sound) {input : RefreshInput} {candidate : RefreshToken}
    {candidateFamily : RefreshTokenFamily} {response : Response}
    (ran : (exchangeRefreshToken sha input (service.mintRefresh sha entropy) candidate candidateFamily).run
      exec db = .ok (.ok response, after)) :
    ∃ row ∈ db.refreshTokens, ∃ family ∈ db.refreshTokenFamilies, row.familyID = family.id ∧
      ∃ next, refreshOnce service.refreshTokenTTL family.absoluteExpiresAt (.ofRow row) input.now = .ok next ∧
        ∃ replacement ∈ after.refreshTokens, replacement.familyID = family.id ∧
          Generation.ofRow replacement = next.stored := by
  cases exchangeRefreshToken_ok sound ran with
  | @rotated locked scopes minted events locks unconsumed unexpired selected valid inside ordinary isMinted =>
    obtain ⟨granted, accessToken, -, mintable, absoluteNotZero, -, rfl⟩ := mintRefresh_ok.mp isMinted
    simp only [refreshMintable, refreshedAuthority, Bool.and_eq_true, Bool.not_eq_true', Time.isZero,
      beq_eq_false_iff_ne] at mintable
    simp only [validRefreshMinted, Bool.and_eq_true, bne_iff_ne] at valid
    obtain ⟨⟨-, counted⟩, -⟩ := valid
    refine ⟨locked.presented, locks.presented, locked.family, locks.family, locks.presentedFamily, _,
      (refreshOnce_ok service.refreshTTL_valid).mpr ⟨unexpired, mintable.1.1.1.1.2, absoluteNotZero,
        locks.unexpired, counted, rfl⟩, _, List.mem_append_right _ (List.mem_singleton_self _), rfl, rfl⟩

/-! ## Chains -/

theorem capped_refresh (valid : refreshLifetimesValid rollingTTL absoluteTTL)
    (whole : timestamp absolute = absolute)
    (refreshed : refreshOnce rollingTTL absolute presented now = .ok next) :
    next.Capped absolute ∧ next.stored.Capped absolute := by
  obtain ⟨-, -, -, before, -, rfl⟩ := (refreshOnce_ok valid).mp refreshed
  obtain ⟨least, most, -⟩ := valid
  simp only [timestamp, hours, minutes, seconds, microseconds] at least most whole
  refine ⟨⟨?_, ?_, ?_⟩, ⟨?_, ?_, ?_⟩⟩
  all_goals
    simp only [Generation.stored, timestamp, microseconds, Zone.utc, hours, minutes, seconds]
    lia

theorem refreshAll_cons {later : List Time} {generations : List Generation} :
    refreshAll rollingTTL absolute presented (now :: later) = .ok generations ↔
      ∃ next others, refreshOnce rollingTTL absolute presented.stored now = .ok next ∧
        refreshAll rollingTTL absolute next later = .ok others ∧ generations = next :: others := by
  cases once : refreshOnce rollingTTL absolute presented.stored now with
  | error failure => simp [refreshAll, once, bind, Except.bind]
  | ok next =>
    cases rest : refreshAll rollingTTL absolute next later with
    | error failure => simp [refreshAll, once, rest, bind, Except.bind]
    | ok others => simp [refreshAll, once, rest, bind, Except.bind, eq_comm (a := generations)]

theorem refreshAll_capped (valid : refreshLifetimesValid rollingTTL absoluteTTL)
    (whole : timestamp absolute = absolute) {times : List Time} {generations : List Generation}
    (refreshed : refreshAll rollingTTL absolute presented times = .ok generations) :
    ∀ generation ∈ generations, generation.Capped absolute ∧ generation.stored.Capped absolute := by
  induction times generalizing presented generations with
  | nil =>
    cases refreshed
    exact fun _ member => absurd member List.not_mem_nil
  | cons now later ih =>
    obtain ⟨next, others, once, rest, rfl⟩ := refreshAll_cons.mp refreshed
    exact List.forall_mem_cons.mpr ⟨capped_refresh valid whole once, ih rest⟩

/-- Refreshes that come in time succeed, until the numbers run out. -/
theorem refreshAll_spaced (valid : refreshLifetimesValid rollingTTL absoluteTTL)
    (whole : timestamp absolute = absolute) (absoluteNotZero : absolute ≠ 0) {times : List Time} {last : Time}
    (spaced : Spaced rollingTTL absolute last times)
    (lasts : min (last + rollingTTL) absolute ≤ presented.expiresAt)
    (counted : presented.number + times.length ≤ maxGeneration) :
    ∃ generations, refreshAll rollingTTL absolute presented times = .ok generations := by
  induction times generalizing presented last with
  | nil => exact ⟨[], rfl⟩
  | cons now later ih =>
    obtain ⟨notZero, before, inTime, spaced⟩ := spaced
    rw [List.length_cons] at counted
    have unexpired : now < presented.stored.expiresAt := by
      simp only [Generation.stored, timestamp, microseconds] at inTime whole ⊢
      lia
    have once := (refreshOnce_ok valid).mpr
      ⟨unexpired, notZero, absoluteNotZero, before, show presented.number ≠ maxGeneration by omega, rfl⟩
    have remaining : presented.number + 1 + later.length ≤ maxGeneration := by omega
    obtain ⟨others, rest⟩ := ih spaced (le_refl (Generation.mk _ _ _).expiresAt) remaining
    exact ⟨_, refreshAll_cons.mpr ⟨_, others, once, rest, rfl⟩⟩

/-- With the last number the chain ends. -/
theorem refreshAll_ends (valid : refreshLifetimesValid rollingTTL absoluteTTL) {times : List Time}
    (more : maxGeneration < presented.number + times.length) (reached : presented.number ≤ maxGeneration) :
    ∀ generations, refreshAll rollingTTL absolute presented times ≠ .ok generations := by
  induction times generalizing presented with
  | nil => exact absurd more (by simpa using reached)
  | cons now later ih =>
    intro generations refreshed
    obtain ⟨next, others, once, rest, -⟩ := refreshAll_cons.mp refreshed
    obtain ⟨-, -, -, -, notLast, rfl⟩ := (refreshOnce_ok valid).mp once
    have before : presented.number ≠ maxGeneration := notLast
    rw [List.length_cons] at more
    refine ih ?_ ?_ others rest
    · show maxGeneration < presented.number + 1 + later.length
      omega
    · show presented.number + 1 ≤ maxGeneration
      omega

end Refreshes

/-- The deadlines of a whole chain of refreshes. -/
theorem refresh_chain (created : Time) (rollingTTL absoluteTTL : Int) (expires absolute : Time)
    (accepted : refreshDeadlines created rollingTTL absoluteTTL = .ok (expires, absolute)) :
    (∀ times generations,
      refreshAll rollingTTL (timestamp absolute) ⟨0, created, expires⟩ times = .ok generations →
        ∀ generation ∈ ⟨0, created, expires⟩ :: generations,
          generation.Capped absolute ∧ generation.stored.Capped (timestamp absolute) ∧
            ∀ time, timestamp absolute ≤ time → generation.stored.expiresAt ≤ time) ∧
    (absolute ≤ Zone.utc.plusDays created 365 ∧
      timestamp absolute ≤ Zone.utc.plusDays (timestamp created) 365) ∧
    (timestamp absolute ≠ 0 → ∀ times, Spaced rollingTTL (timestamp absolute) created times →
      times.length ≤ maxGeneration →
        ∃ generations,
          refreshAll rollingTTL (timestamp absolute) ⟨0, created, expires⟩ times = .ok generations) := by
  obtain ⟨valid, rfl, rfl⟩ := refreshDeadlines_eq accepted
  have whole := timestamp_timestamp (created + absoluteTTL)
  have first : (Generation.mk 0 created (created + rollingTTL)).Capped (created + absoluteTTL) ∧
      (Generation.mk 0 created (created + rollingTTL)).stored.Capped (timestamp (created + absoluteTTL)) := by
    obtain ⟨least, most, -, -, ordered⟩ := valid
    simp only [hours, minutes, seconds] at least most
    refine ⟨⟨?_, ?_, ?_⟩, ⟨?_, ?_, ?_⟩⟩
    all_goals
      simp only [Generation.stored, timestamp, microseconds, Zone.utc, hours, minutes, seconds]
      lia
  refine ⟨?_, ?_, ?_⟩
  · intro times generations refreshed generation member
    have capped : generation.Capped (created + absoluteTTL) ∧
        generation.stored.Capped (timestamp (created + absoluteTTL)) := by
      rcases List.mem_cons.mp member with rfl | member
      · exact first
      · obtain ⟨computed, stored⟩ := refreshAll_capped valid whole refreshed generation member
        exact ⟨⟨computed.lasts, computed.inside.trans (timestamp_le _), computed.short⟩, stored⟩
    exact ⟨capped.1, capped.2, fun time late => capped.2.inside.trans late⟩
  · obtain ⟨-, -, -, most, -⟩ := valid
    simp only [hours, minutes, seconds] at most
    simp only [timestamp, microseconds, Zone.utc, hours, minutes, seconds]
    constructor <;> lia
  · intro notZero times spaced counted
    refine refreshAll_spaced valid whole notZero spaced (min_le_left _ _) ?_
    simpa using counted

theorem refresh_chain_day :
    refreshDeadlines (seconds 1) (hours 1) (hours 24) = .ok (seconds 3601, seconds 86401) ∧
      ∃ generations, refreshAll (hours 1) (timestamp (seconds 86401)) ⟨0, seconds 1, seconds 3601⟩
        [minutes 30, minutes 60] = .ok generations := by
  have accepted : refreshDeadlines (seconds 1) (hours 1) (hours 24) = .ok (seconds 3601, seconds 86401) := by
    decide
  obtain ⟨-, -, refreshable⟩ := refresh_chain _ _ _ _ _ accepted
  exact ⟨accepted, refreshable (by decide) _ (by simp only [Spaced]; decide) (by decide)⟩

theorem spaced_replicate {rollingTTL : Int} {deadline time : Time} (notZero : time ≠ 0)
    (before : time < deadline) (long : microseconds 1 ≤ rollingTTL) (count : Nat) :
    Spaced rollingTTL deadline time (List.replicate count time) := by
  induction count with
  | zero => trivial
  | succ count ih => exact ⟨notZero, before, by lia, ih⟩

/-- Where a chain stops before its deadline: the deadline is Go's zero time, a refresh comes at Go's zero
time, and after 2⁶³ − 1 refreshes there is no number left. -/
theorem refresh_chain_stops :
    (refreshDeadlines (-hours 24) (hours 1) (hours 24) = .ok (-hours 23, 0) ∧
      Spaced (hours 1) (timestamp 0) (-hours 24) [-hours 24] ∧
      refreshAll (hours 1) (timestamp 0) ⟨0, -hours 24, -hours 23⟩ [-hours 24] = .error .tokenInvalidGrant) ∧
    (refreshDeadlines (-minutes 30) (hours 1) (hours 24) = .ok (minutes 30, minutes 1410) ∧
      0 < timestamp (minutes 1410) ∧ 0 + microseconds 1 ≤ -minutes 30 + hours 1 ∧
      refreshAll (hours 1) (timestamp (minutes 1410)) ⟨0, -minutes 30, minutes 30⟩ [0] =
        .error .tokenInvalidGrant) ∧
    refreshDeadlines (seconds 1) (hours 1) (hours 24) = .ok (seconds 3601, seconds 86401) ∧
      ∃ times, Spaced (hours 1) (timestamp (seconds 86401)) (seconds 1) times ∧
        ∀ generations, refreshAll (hours 1) (timestamp (seconds 86401)) ⟨0, seconds 1, seconds 3601⟩ times ≠
          .ok generations := by
  have spaced : Spaced (hours 1) (timestamp 0) (-hours 24) [-hours 24] := by
    simp only [Spaced]
    decide
  refine ⟨⟨by decide, spaced, by decide⟩, by decide, by decide, List.replicate (2 ^ 63) (seconds 1),
    spaced_replicate (by decide) (by decide) (by decide) _, ?_⟩
  have valid : refreshLifetimesValid (hours 1) (hours 24) := by decide
  refine refreshAll_ends valid ?_ (by decide)
  rw [List.length_replicate]
  decide

end OneIssuer.Token
