import OneIssuer.Metering.Window
import OneIssuer.Schema.Values
import OneIssuer.Wire.Address

/-!
# Rate limits

The limiter in front of the browser and token endpoints: one bucket for the whole process, one for each
address and one for each authenticated client, charged one call after another (`step`).

A bucket of an address or a client is forgotten ten minutes after the last request it admitted, and the
next request starts a full one. While `burst ≤ 10 * perMinute` a bucket that old has been full anyway, and
the limit is the one of a token bucket (`address_and_client_windows`). With a larger burst forgetting hands
out tokens: at every rate the configuration admits, a client then gets through two bursts within ten
minutes and a nanosecond (`client_window_iff`). The process-wide bucket is never forgotten, and its limit
holds with every burst (`global_window_and_table_bound`).

The proofs meter the calls. The level of a key, full for a key without a bucket, grows with time at most
at the rate and pays one token for each call it admits (`clients_meter`, `authenticated_meter`,
`global_meters`); `Metering.Meters.window` turns that into a bound for every window. A table keeps
`Table.Kept`: each bucket is as full as the time since its last admission, up to ten minutes of it, made
it.

At Go's zero time `refillBucket` takes the time of a bucket for a missing one and fills it, so the calls
are dated (`zero_time_refills`).

**What it does not establish.** Bucket levels are rationals, where the source computes in `float64`. Calls
come with times that do not go back, as readings of a monotonic clock do, and the mutex of the source is
the order of the calls. A table of 4096 keys refuses further ones, and how long it takes to have room again
is not stated.
-/

set_option autoImplicit false

namespace OneIssuer.RateLimit

open Metering
open Wire (Addr)

/-! ## Buckets -/

/-- `tokenBucket`. -/
structure TokenBucket where
  tokens : ℚ
  last : Time
  lastSeen : Time
  deriving DecidableEq

/-- `now.Sub(last).Seconds()`; a `time.Duration` is an `int64`, and `Sub` saturates. -/
def elapsedSeconds (now last : Time) : ℚ :=
  (max (-2 ^ 63) (min (now - last) (2 ^ 63 - 1)) : Int) / 1000000000

/-- `refillBucket`. -/
def refillBucket (bucket : TokenBucket) (ratePerSecond : ℚ) (burst : Nat) (now : Time) :
    TokenBucket :=
  if bucket.last.isZero then { tokens := burst, last := now, lastSeen := now }
  else if bucket.last < now then
    { bucket with
      tokens := min (bucket.tokens + elapsedSeconds now bucket.last * ratePerSecond) burst
      last := now }
  else bucket

/-- `maxAuthRateLimitEntries`. -/
def maxAuthRateLimitEntries : Nat := 4096

/-- `authRateEntryTTL`. -/
def authRateEntryTTL : Int := minutes 10

/-- `authRateSweepInterval`. -/
def authRateSweepInterval : Int := minutes 1

/-! ## Tables -/

/-- A map of buckets with the time of its next sweep. -/
structure Table (κ : Type) where
  entries : List (κ × TokenBucket)
  nextSweep : Time

section Tables

variable {κ : Type} [DecidableEq κ]

/-- `table[key]`. -/
def Table.get (table : Table κ) (key : κ) : Option TokenBucket :=
  (table.entries.find? (·.1 == key)).map (·.2)

/-- `table[key] = bucket`. -/
def Table.put (table : Table κ) (key : κ) (bucket : TokenBucket) : Table κ :=
  { table with entries := (key, bucket) :: table.entries.filter (·.1 != key) }

/-- `sweepLocked` and `sweepAuthenticatedLocked`. -/
def Table.sweep (table : Table κ) (now : Time) : Table κ :=
  if now < table.nextSweep then table
  else
    { entries := table.entries.filter fun entry => !decide (entry.2.lastSeen < now - authRateEntryTTL)
      nextSweep := now + authRateSweepInterval }

/-- The refilled bucket is charged, or stored as it is. -/
def Table.take (perMinute burst : Nat) (table : Table κ) (key : κ) (bucket : TokenBucket)
    (now : Time) : Bool × Table κ :=
  let bucket := refillBucket bucket (perMinute / 60) burst now
  if bucket.tokens < 1 then (false, table.put key bucket)
  else (true, table.put key { bucket with tokens := bucket.tokens - 1, lastSeen := now })

/-- The part that `allow` and `allowClient` share. -/
def Table.charge (perMinute burst : Nat) (table : Table κ) (key : κ) (now : Time) :
    Bool × Table κ :=
  match table.get key with
  | some bucket => table.take perMinute burst key bucket now
  | none =>
    let swept := table.sweep now
    if swept.entries.length ≥ maxAuthRateLimitEntries then (false, swept)
    else swept.take perMinute burst key { tokens := burst, last := now, lastSeen := now } now

end Tables

/-! ## The limiter -/

/-- `AuthenticationRateLimitConfig` after `newAuthenticationRateLimiter` put the defaults in. -/
structure Config where
  perMinute : Nat
  burst : Nat
  globalPerSecond : Nat
  globalBurst : Nat
  positive : 0 < perMinute ∧ 0 < burst ∧ 0 < globalPerSecond ∧ 0 < globalBurst

/-- `value`, or the default when it is not positive. -/
def orDefault (value : Int) (fallback : Nat) : Nat := if value ≤ 0 then fallback else value.toNat

theorem orDefault_pos {value : Int} {fallback : Nat} (positive : 0 < fallback) :
    0 < orDefault value fallback := by
  unfold orDefault
  split
  · exact positive
  · omega

/-- The defaults of `newAuthenticationRateLimiter`. -/
def Config.normalized (perMinute burst globalPerSecond globalBurst : Int) : Config where
  perMinute := orDefault perMinute 20
  burst := orDefault burst 10
  globalPerSecond := orDefault globalPerSecond 50
  globalBurst := orDefault globalBurst 100
  positive := ⟨orDefault_pos (by decide), orDefault_pos (by decide), orDefault_pos (by decide),
    orDefault_pos (by decide)⟩

/-- `authenticationRateLimiter`. -/
structure Limiter where
  global : TokenBucket
  clients : Table Addr
  authenticated : Table Uuid

variable (config : Config)

/-- `newAuthenticationRateLimiter`. -/
def newLimiter (now : Time) : Limiter where
  global := { tokens := config.globalBurst, last := now, lastSeen := now }
  clients := ⟨[], now + authRateSweepInterval⟩
  authenticated := ⟨[], now + authRateSweepInterval⟩

/-- The process-wide bucket of `allow`. -/
def Limiter.refillGlobal (limiter : Limiter) (now : Time) : TokenBucket :=
  refillBucket limiter.global config.globalPerSecond config.globalBurst now

/-- `allow`. -/
def allow (limiter : Limiter) (address : Addr) (now : Time) : Bool × Limiter :=
  let global := limiter.refillGlobal config now
  if global.tokens < 1 then (false, { limiter with global })
  else
    match limiter.clients.charge config.perMinute config.burst address.unmap now with
    | (false, clients) => (false, { limiter with global, clients })
    | (true, clients) =>
      (true, { limiter with
        global := { global with tokens := global.tokens - 1, lastSeen := now }
        clients })

/-- `allowClient`. -/
def allowClient (limiter : Limiter) (clientID : Uuid) (now : Time) : Bool × Limiter :=
  if clientID == Uuid.nil then (true, limiter)
  else
    match limiter.authenticated.charge config.perMinute config.burst clientID now with
    | (admitted, authenticated) => (admitted, { limiter with authenticated })

/-- A call of the limiter. -/
inductive Call where
  | allow (address : Addr) (now : Time)
  | allowClient (clientID : Uuid) (now : Time)
  deriving DecidableEq, Repr

def Call.now : Call → Time
  | .allow _ now => now
  | .allowClient _ now => now

/-- One call; calls run one after the other under the mutex. -/
def step (limiter : Limiter) : Call → Bool × Limiter
  | .allow address now => OneIssuer.RateLimit.allow config limiter address now
  | .allowClient clientID now => OneIssuer.RateLimit.allowClient config limiter clientID now

/-! ## Levels -/

section Levels

variable {rate : ℚ} {burst : Nat} {bucket : TokenBucket} {last now later : Time}

theorem elapsedSeconds_nonneg (forward : last ≤ now) : 0 ≤ elapsedSeconds now last := by
  have clamped : (0 : Int) ≤ max (-2 ^ 63) (min (now - last) (2 ^ 63 - 1)) := by lia
  rw [elapsedSeconds]
  exact div_nonneg (by exact_mod_cast clamped) (by norm_num)

/-- Saturation only shortens. -/
theorem elapsedSeconds_le (forward : last ≤ later) :
    elapsedSeconds later last ≤ ((later - last : Int) : ℚ) / 1000000000 := by
  have clamped : max (-2 ^ 63) (min (later - last) (2 ^ 63 - 1)) ≤ later - last := by lia
  rw [elapsedSeconds]
  exact div_le_div_of_nonneg_right (by exact_mod_cast clamped) (by norm_num)

theorem elapsedSeconds_add_le (forward : now ≤ later) :
    elapsedSeconds later last ≤
      elapsedSeconds now last + ((later - now : Int) : ℚ) / 1000000000 := by
  have clamped : max (-2 ^ 63) (min (later - last) (2 ^ 63 - 1)) ≤
      max (-2 ^ 63) (min (now - last) (2 ^ 63 - 1)) + (later - now) := by lia
  rw [elapsedSeconds, elapsedSeconds, ← add_div]
  exact div_le_div_of_nonneg_right (by exact_mod_cast clamped) (by norm_num)

/-- What is in a bucket at `now`. -/
def TokenBucket.level (bucket : TokenBucket) (rate : ℚ) (burst : Nat) (now : Time) : ℚ :=
  if bucket.last < now then min (bucket.tokens + elapsedSeconds now bucket.last * rate) burst
  else bucket.tokens

/-- A bucket between empty and full, with a time that is not Go's zero time unless it is full. -/
structure TokenBucket.Sane (bucket : TokenBucket) (burst : Nat) : Prop where
  nonneg : 0 ≤ bucket.tokens
  capped : bucket.tokens ≤ burst
  dated : bucket.last = 0 → bucket.tokens = burst

theorem TokenBucket.Sane.level_nonneg (sane : bucket.Sane burst) (rateNonneg : 0 ≤ rate) :
    0 ≤ bucket.level rate burst now := by
  unfold TokenBucket.level
  split
  · rename_i later
    have grown := mul_nonneg (elapsedSeconds_nonneg later.le) rateNonneg
    exact le_min (add_nonneg sane.nonneg grown) (Nat.cast_nonneg _)
  · exact sane.nonneg

theorem TokenBucket.Sane.level_le (sane : bucket.Sane burst) : bucket.level rate burst now ≤ burst := by
  unfold TokenBucket.level
  split
  · exact min_le_right _ _
  · exact sane.capped

/-- The level grows at most at the rate. -/
theorem TokenBucket.level_grows (rateNonneg : 0 ≤ rate)
    (forward : now ≤ later) :
    bucket.level rate burst later ≤
      bucket.level rate burst now + rate / 1000000000 * ((later - now : Int) : ℚ) := by
  have room : (0 : ℚ) ≤ ((later - now : Int) : ℚ) := by
    exact_mod_cast Int.sub_nonneg.mpr forward
  have growth : 0 ≤ rate / 1000000000 * ((later - now : Int) : ℚ) :=
    mul_nonneg (div_nonneg rateNonneg (by norm_num)) room
  unfold TokenBucket.level
  by_cases afterLast : bucket.last < later
  · rw [if_pos afterLast]
    by_cases already : bucket.last < now
    · rw [if_pos already]
      have longer : elapsedSeconds later bucket.last ≤
          elapsedSeconds now bucket.last + ((later - now : Int) : ℚ) / 1000000000 :=
        elapsedSeconds_add_le forward
      have slower := mul_le_mul_of_nonneg_right longer rateNonneg
      have split : (elapsedSeconds now bucket.last + ((later - now : Int) : ℚ) / 1000000000) * rate =
          elapsedSeconds now bucket.last * rate +
            rate / 1000000000 * ((later - now : Int) : ℚ) := by ring
      rcases le_total (bucket.tokens + elapsedSeconds now bucket.last * rate) burst with part | full
      · rw [min_eq_left part]
        refine (min_le_left _ _).trans ?_
        linarith
      · rw [min_eq_right full]
        exact (min_le_right _ _).trans (by linarith)
    · rw [if_neg already]
      have slower := mul_le_mul_of_nonneg_right (elapsedSeconds_le afterLast.le) rateNonneg
      have longer : ((later - bucket.last : Int) : ℚ) ≤ ((later - now : Int) : ℚ) := by
        exact_mod_cast Int.sub_le_sub_left (Int.not_lt.mp already) later
      have wider := mul_le_mul_of_nonneg_left longer
        (div_nonneg rateNonneg (by norm_num : (0 : ℚ) ≤ 1000000000))
      have same : ((later - bucket.last : Int) : ℚ) / 1000000000 * rate =
          rate / 1000000000 * ((later - bucket.last : Int) : ℚ) := by ring
      refine (min_le_left _ _).trans ?_
      linarith
  · have before : ¬ bucket.last < now := fun early => afterLast (early.trans_le forward)
    rw [if_neg afterLast, if_neg before]
    linarith

/-- `refillBucket` brings the level up to date. -/
theorem TokenBucket.Sane.refill_tokens (sane : bucket.Sane burst) (rateNonneg : 0 ≤ rate) :
    (refillBucket bucket rate burst now).tokens = bucket.level rate burst now := by
  unfold refillBucket TokenBucket.level
  split
  · rename_i isZero
    have full := sane.dated (by simpa [Time.isZero] using isZero)
    split
    · rename_i later
      have grown := mul_nonneg (elapsedSeconds_nonneg later.le) rateNonneg
      rw [full, min_eq_right (by linarith)]
    · exact full.symm
  · split
    · rfl
    · rfl

theorem refill_last (notZero : now ≠ 0) :
    (refillBucket bucket rate burst now).last ≠ 0 ∧
      ¬ (refillBucket bucket rate burst now).last < now := by
  unfold refillBucket
  split
  · exact ⟨notZero, lt_irrefl _⟩
  · rename_i dated
    split
    · exact ⟨notZero, lt_irrefl _⟩
    · rename_i notBefore
      exact ⟨by simpa [Time.isZero] using dated, notBefore⟩

/-- A refilled bucket is sane, also after it paid one token. -/
theorem TokenBucket.Sane.refill (sane : bucket.Sane burst) (rateNonneg : 0 ≤ rate)
    (notZero : now ≠ 0) : (refillBucket bucket rate burst now).Sane burst where
  nonneg := by
    rw [sane.refill_tokens rateNonneg]
    exact sane.level_nonneg rateNonneg
  capped := by
    rw [sane.refill_tokens rateNonneg]
    exact sane.level_le
  dated isZero := absurd isZero (refill_last notZero).1

end Levels

/-! ## What a table keeps -/

section Tables

variable {κ : Type} [DecidableEq κ] {perMinute burst : Nat} {table : Table κ} {key other : κ}
  {bucket : TokenBucket} {now later : Time}

/-- A lookup among entries that pass a test on their buckets. -/
theorem find?_filter_bucket (keep : TokenBucket → Bool) {entries : List (κ × TokenBucket)}
    (distinct : (entries.map Prod.fst).Nodup) :
    (entries.filter fun entry => keep entry.2).find? (·.1 == key) =
      (entries.find? (·.1 == key)).filter fun entry => keep entry.2 := by
  induction entries with
  | nil => rfl
  | cons entry entries ih =>
    rw [List.map_cons, List.nodup_cons] at distinct
    have rest := ih distinct.2
    by_cases here : entry.1 == key
    · have absent : entries.find? (·.1 == key) = none := by
        rw [List.find?_eq_none]
        intro twin member same
        rw [beq_iff_eq.mp here, ← beq_iff_eq.mp same] at distinct
        exact distinct.1 (List.mem_map_of_mem member)
      by_cases kept : keep entry.2
      · simp only [List.filter_cons, List.find?_cons, here, kept, if_true, Option.filter_some]
      · simp only [List.filter_cons, List.find?_cons, here, kept, rest, absent, Option.filter_some,
          Bool.false_eq_true, if_false, Option.filter_none]
    · by_cases kept : keep entry.2
      · simp only [List.filter_cons, List.find?_cons, here, kept, if_true]
        exact rest
      · simp only [List.filter_cons, List.find?_cons, here, kept, Bool.false_eq_true, if_false]
        exact rest

@[simp] theorem Table.get_put_self : (table.put key bucket).get key = some bucket := by
  simp [Table.get, Table.put]

theorem Table.get_put_ne (different : other ≠ key) :
    (table.put key bucket).get other = table.get other := by
  have sameTest : (fun entry : κ × TokenBucket =>
      decide ((entry.1 != key) = true ∧ (entry.1 == other) = true)) =
      fun entry => entry.1 == other := by
    funext entry
    by_cases here : entry.1 = other
    · simp [here, different]
    · simp [here]
  have notHead : (key == other) = false := by simpa using different.symm
  simp only [Table.get, Table.put, List.find?_cons, notHead, List.find?_filter, sameTest]

/-- The bucket is between empty and full, and as full as the time since its last admission made it. -/
structure TokenBucket.Earned (perMinute burst : Nat) (bucket : TokenBucket) (now : Time) : Prop where
  sane : bucket.Sane burst
  past : bucket.last ≤ now
  seen : bucket.lastSeen ≤ bucket.last
  earned : min (burst : ℚ)
    ((min (bucket.last - bucket.lastSeen) authRateEntryTTL : Int) / 1000000000 * (perMinute / 60)) ≤
      bucket.tokens

/-- What a table keeps. -/
structure Table.Kept (perMinute burst : Nat) (table : Table κ) (now : Time) : Prop where
  distinct : (table.entries.map Prod.fst).Nodup
  buckets : ∀ entry ∈ table.entries, entry.2.Earned perMinute burst now

omit [DecidableEq κ] in
theorem Table.Kept.wait (kept : table.Kept perMinute burst now) (forward : now ≤ later) :
    table.Kept perMinute burst later where
  distinct := kept.distinct
  buckets entry member :=
    { kept.buckets entry member with past := (kept.buckets entry member).past.trans forward }

theorem Table.Kept.get (kept : table.Kept perMinute burst now) (found : table.get key = some bucket) :
    bucket.Earned perMinute burst now := by
  obtain ⟨entry, isFound, rfl⟩ := Option.map_eq_some_iff.mp found
  exact kept.buckets entry (List.mem_of_find?_eq_some isFound)

theorem Table.Kept.put (kept : table.Kept perMinute burst now)
    (earned : bucket.Earned perMinute burst now) : (table.put key bucket).Kept perMinute burst now where
  distinct := by
    rw [Table.put, List.map_cons, List.nodup_cons]
    constructor
    · simp
    · exact kept.distinct.sublist (List.filter_sublist.map _)
  buckets := by
    intro entry member
    rcases List.mem_cons.mp member with rfl | old
    · exact earned
    · exact kept.buckets entry (List.mem_of_mem_filter old)

omit [DecidableEq κ] in
theorem Table.Kept.sweep (kept : table.Kept perMinute burst now) :
    (table.sweep now).Kept perMinute burst now := by
  unfold Table.sweep
  split
  · exact kept
  · exact ⟨kept.distinct.sublist (List.filter_sublist.map _),
      fun entry member => kept.buckets entry (List.mem_of_mem_filter member)⟩

/-- What is in the bucket of a key; a key without one has a full bucket. -/
def Table.level (perMinute burst : Nat) (table : Table κ) (key : κ) (now : Time) : ℚ :=
  match table.get key with
  | some bucket => bucket.level (perMinute / 60) burst now
  | none => burst

/-! ### Refilling -/

theorem TokenBucket.Earned.refill (earned : bucket.Earned perMinute burst now) (notZero : now ≠ 0) :
    (refillBucket bucket (perMinute / 60) burst now).Earned perMinute burst now := by
  have rateNonneg : (0 : ℚ) ≤ perMinute / 60 :=
    div_nonneg (Nat.cast_nonneg _) (by norm_num)
  refine ⟨earned.sane.refill rateNonneg notZero, ?_, ?_, ?_⟩
  · unfold refillBucket
    split
    · exact le_rfl
    · split
      · exact le_rfl
      · exact earned.past
  · unfold refillBucket
    split
    · exact le_rfl
    · split
      · exact earned.seen.trans earned.past
      · exact earned.seen
  · unfold refillBucket
    split
    · exact min_le_left _ _
    · split
      · rename_i later
        -- What was earned until `last`, and what the refill adds, covers the time until now.
        have whole : (min (now - bucket.lastSeen) authRateEntryTTL : Int) ≤
            min (bucket.last - bucket.lastSeen) authRateEntryTTL +
              max (-2 ^ 63) (min (now - bucket.last) (2 ^ 63 - 1)) := by
          have seen := earned.seen
          have constant : authRateEntryTTL = 600000000000 := rfl
          lia
        have wholeSeconds : ((min (now - bucket.lastSeen) authRateEntryTTL : Int) : ℚ) / 1000000000 ≤
            ((min (bucket.last - bucket.lastSeen) authRateEntryTTL : Int) : ℚ) / 1000000000 +
              elapsedSeconds now bucket.last := by
          rw [elapsedSeconds, ← add_div]
          exact div_le_div_of_nonneg_right (by exact_mod_cast whole) (by norm_num)
        have product := mul_le_mul_of_nonneg_right wholeSeconds rateNonneg
        rw [add_mul] at product
        have grown := mul_nonneg (elapsedSeconds_nonneg later.le) rateNonneg
        have before := earned.earned
        refine le_min ?_ (min_le_left _ _)
        rcases min_le_iff.mp before with full | part
        · exact (min_le_left _ _).trans (by linarith)
        · exact (min_le_right _ _).trans (by linarith)
      · exact earned.earned

/-- A bucket that admitted nothing for ten minutes is full, unless the burst is too large. -/
theorem TokenBucket.Earned.full (earned : bucket.Earned perMinute burst now) (notZero : now ≠ 0)
    (moderate : burst ≤ 10 * perMinute) (idle : bucket.lastSeen < now - authRateEntryTTL) :
    bucket.level (perMinute / 60) burst now = burst := by
  have rateNonneg : (0 : ℚ) ≤ perMinute / 60 :=
    div_nonneg (Nat.cast_nonneg _) (by norm_num)
  have refilled := (earned.refill notZero).earned
  refine le_antisymm earned.sane.level_le ?_
  rw [← earned.sane.refill_tokens rateNonneg]
  have upToDate : (refillBucket bucket (perMinute / 60) burst now).last = now :=
    le_antisymm (earned.refill notZero).past (Int.not_lt.mp (refill_last notZero).2)
  by_cases isZero : bucket.last = 0
  · simp [refillBucket, Time.isZero, isZero]
  · have seen : (refillBucket bucket (perMinute / 60) burst now).lastSeen = bucket.lastSeen := by
      unfold refillBucket
      split
      · rename_i dated
        exact absurd (by simpa [Time.isZero] using dated) isZero
      · split <;> rfl
    have long : (min (now - bucket.lastSeen) authRateEntryTTL : Int) = 600000000000 := by
      have constant : authRateEntryTTL = 600000000000 := rfl
      lia
    rw [upToDate, seen, long] at refilled
    have enough : (burst : ℚ) ≤ ((600000000000 : Int) : ℚ) / 1000000000 * (perMinute / 60) := by
      have bound : (burst : ℚ) ≤ 10 * perMinute := by exact_mod_cast moderate
      push_cast
      linarith
    rwa [min_eq_left enough] at refilled

/-! ### Charging -/

/-- What `take` does to the table. -/
theorem Table.take_spec (kept : table.Kept perMinute burst now)
    (earned : bucket.Earned perMinute burst now) (notZero : now ≠ 0) (key : κ) :
    (table.take perMinute burst key bucket now).2.Kept perMinute burst now ∧
      (table.take perMinute burst key bucket now).2.level perMinute burst key now +
          (if (table.take perMinute burst key bucket now).1 then 1 else 0) =
        bucket.level (perMinute / 60) burst now ∧
      ∀ other ≠ key, (table.take perMinute burst key bucket now).2.get other = table.get other := by
  have rateNonneg : (0 : ℚ) ≤ perMinute / 60 :=
    div_nonneg (Nat.cast_nonneg _) (by norm_num)
  have refilled := earned.refill notZero
  have tokens : (refillBucket bucket (perMinute / 60) burst now).tokens =
      bucket.level (perMinute / 60) burst now := earned.sane.refill_tokens rateNonneg
  obtain ⟨dated, notBefore⟩ : (refillBucket bucket (perMinute / 60) burst now).last ≠ 0 ∧
      ¬ (refillBucket bucket (perMinute / 60) burst now).last < now := refill_last notZero
  unfold Table.take
  simp only
  split
  · refine ⟨kept.put refilled, ?_, fun other different => Table.get_put_ne different⟩
    rw [← tokens]
    simp [Table.level, TokenBucket.level, notBefore]
  · rename_i enough
    have charged : TokenBucket.Earned perMinute burst
        { refillBucket bucket (perMinute / 60) burst now with
          tokens := (refillBucket bucket (perMinute / 60) burst now).tokens - 1
          lastSeen := now } now := by
      refine ⟨⟨by linarith, ?_, fun isZero => absurd isZero dated⟩, refilled.past,
        Int.not_lt.mp notBefore, ?_⟩
      · have capped := refilled.sane.capped
        simp only
        linarith
      · have upToDate : (refillBucket bucket (perMinute / 60) burst now).last = now :=
          le_antisymm refilled.past (Int.not_lt.mp notBefore)
        have none : (min (now - now) authRateEntryTTL : Int) = 0 := by
          have constant : authRateEntryTTL = 600000000000 := rfl
          lia
        simp only [upToDate, none]
        refine (min_le_right _ _).trans ?_
        simp only [Int.cast_zero, zero_div, zero_mul]
        linarith
    refine ⟨kept.put charged, ?_, fun other different => Table.get_put_ne different⟩
    rw [← tokens]
    simp [Table.level, TokenBucket.level, notBefore]

theorem Table.sweep_get (kept : table.Kept perMinute burst now) (key : κ) :
    (table.sweep now).get key = table.get key ∨
      (table.sweep now).get key = none ∧
        ∃ bucket, table.get key = some bucket ∧ bucket.lastSeen < now - authRateEntryTTL := by
  unfold Table.sweep
  split
  · exact .inl rfl
  · rw [Table.get, Table.get, find?_filter_bucket
      (fun bucket => !decide (bucket.lastSeen < now - authRateEntryTTL)) kept.distinct]
    cases found : table.entries.find? (·.1 == key) with
    | none => exact .inl rfl
    | some entry =>
      by_cases idle : entry.2.lastSeen < now - authRateEntryTTL
      · refine .inr ⟨?_, entry.2, rfl, idle⟩
        simp only [Option.filter_some, decide_eq_true idle, Bool.not_true, Bool.false_eq_true, if_false,
          Option.map_none]
      · left
        simp only [Option.filter_some, decide_eq_false idle, Bool.not_false, if_true]

/-- A sweep takes away full buckets only. -/
theorem Table.sweep_level (kept : table.Kept perMinute burst now) (notZero : now ≠ 0)
    (moderate : burst ≤ 10 * perMinute) :
    (table.sweep now).level perMinute burst key now = table.level perMinute burst key now := by
  rcases Table.sweep_get kept key with same | ⟨gone, bucket, found, idle⟩
  · rw [Table.level, same, Table.level]
  · have full := (kept.get found).full notZero moderate idle
    simp only [Table.level, gone, found, full]

/-- The bucket that a new key starts with. -/
theorem TokenBucket.Earned.fresh (notZero : now ≠ 0) :
    TokenBucket.Earned perMinute burst { tokens := burst, last := now, lastSeen := now } now where
  sane := ⟨Nat.cast_nonneg _, le_rfl, fun isZero => absurd isZero notZero⟩
  past := le_rfl
  seen := le_rfl
  earned := min_le_left _ _

/-- The bucket of the key pays, and no bucket gains. -/
structure Table.Charges (perMinute burst : Nat) (table : Table κ) (key : κ) (now : Time)
    (charged : Bool × Table κ) : Prop where
  kept : charged.2.Kept perMinute burst now
  pays : charged.1 = true →
    charged.2.level perMinute burst key now + 1 ≤ table.level perMinute burst key now
  spares : ∀ other,
    charged.2.level perMinute burst other now ≤ table.level perMinute burst other now

theorem Table.take_charges (kept : table.Kept perMinute burst now)
    (earned : bucket.Earned perMinute burst now) (notZero : now ≠ 0)
    (atKey : bucket.level (perMinute / 60) burst now = table.level perMinute burst key now) :
    table.Charges perMinute burst key now (table.take perMinute burst key bucket now) := by
  obtain ⟨keptAfter, paid, others⟩ := Table.take_spec kept earned notZero key
  rw [atKey] at paid
  refine ⟨keptAfter, fun admitted => ?_, fun other => ?_⟩
  · rw [admitted, if_pos rfl] at paid
    exact paid.le
  · by_cases same : other = key
    · subst same
      have cost : (0 : ℚ) ≤
          if (table.take perMinute burst other bucket now).1 then 1 else 0 := by
        split <;> norm_num
      linarith
    · rw [Table.level, others other same, Table.level]

theorem Table.charge_charges (kept : table.Kept perMinute burst now) (notZero : now ≠ 0)
    (moderate : burst ≤ 10 * perMinute) (key : κ) :
    table.Charges perMinute burst key now (table.charge perMinute burst key now) := by
  unfold Table.charge
  split
  · rename_i bucket found
    exact Table.take_charges kept (kept.get found) notZero (by rw [Table.level, found])
  · rename_i absent
    have same : ∀ other, (table.sweep now).level perMinute burst other now =
        table.level perMinute burst other now := fun _ =>
      Table.sweep_level kept notZero moderate
    have stillAbsent : (table.sweep now).get key = none := by
      rcases Table.sweep_get kept key with unchanged | ⟨gone, _⟩
      · rw [unchanged, absent]
      · exact gone
    simp only
    split
    · exact ⟨kept.sweep, nofun, fun other => (same other).le⟩
    · have charged := Table.take_charges kept.sweep (.fresh notZero) notZero
        (show _ = (table.sweep now).level perMinute burst key now by
          simp [Table.level, stillAbsent, TokenBucket.level])
      exact ⟨charged.kept, fun admitted => (same key) ▸ charged.pays admitted,
        fun other => (same other) ▸ charged.spares other⟩

theorem Table.Kept.level_nonneg (kept : table.Kept perMinute burst now) :
    0 ≤ table.level perMinute burst key now := by
  unfold Table.level
  split
  · rename_i found
    exact (kept.get found).sane.level_nonneg (div_nonneg (Nat.cast_nonneg _) (by norm_num))
  · exact Nat.cast_nonneg _

theorem Table.Kept.level_le (kept : table.Kept perMinute burst now) :
    table.level perMinute burst key now ≤ burst := by
  unfold Table.level
  split
  · rename_i found
    exact (kept.get found).sane.level_le
  · exact le_rfl

theorem Table.level_grows (forward : now ≤ later) :
    table.level perMinute burst key later ≤
      table.level perMinute burst key now +
        (perMinute / 60 / 1000000000 : ℚ) * ((later - now : Int) : ℚ) := by
  have rateNonneg : (0 : ℚ) ≤ perMinute / 60 := div_nonneg (Nat.cast_nonneg _) (by norm_num)
  unfold Table.level
  split
  · exact TokenBucket.level_grows rateNonneg forward
  · have room : (0 : ℚ) ≤ ((later - now : Int) : ℚ) := by
      exact_mod_cast Int.sub_nonneg.mpr forward
    have growth := mul_nonneg (div_nonneg rateNonneg (by norm_num : (0 : ℚ) ≤ 1000000000)) room
    linarith

/-! ### Size -/

theorem Table.length_put_le (found : table.get key = some bucket) (next : TokenBucket) :
    (table.put key next).entries.length ≤ table.entries.length := by
  obtain ⟨entry, isFound, -⟩ := Option.map_eq_some_iff.mp found
  have dropped : (table.entries.filter (·.1 != key)).length < table.entries.length := by
    rw [List.length_filter_lt_length_iff_exists]
    exact ⟨entry, List.mem_of_find?_eq_some isFound, by simpa using List.find?_some isFound⟩
  exact dropped

theorem Table.charge_length (perMinute burst : Nat) (key : κ) (now : Time)
    (bounded : table.entries.length ≤ maxAuthRateLimitEntries) :
    (table.charge perMinute burst key now).2.entries.length ≤ maxAuthRateLimitEntries := by
  unfold Table.charge
  split
  · rename_i found
    simp only [Table.take]
    split
    · exact (Table.length_put_le found _).trans bounded
    · exact (Table.length_put_le found _).trans bounded
  · have swept : (table.sweep now).entries.length ≤ table.entries.length := by
      unfold Table.sweep
      split
      · exact le_rfl
      · exact List.length_filter_le _ _
    have added : ∀ next, ((table.sweep now).put key next).entries.length ≤
        (table.sweep now).entries.length + 1 := fun next =>
      Nat.succ_le_succ (List.length_filter_le _ _)
    simp only
    split
    · exact swept.trans bounded
    · rename_i room
      simp only [Table.take]
      split
      · exact (added _).trans (Nat.not_le.mp room)
      · exact (added _).trans (Nat.not_le.mp room)

/-- The size of the table does not matter to a key that has a bucket. -/
theorem Table.charge_of_get (found : table.get key = some bucket)
    (enough : 1 ≤ (refillBucket bucket (perMinute / 60) burst now).tokens) :
    (table.charge perMinute burst key now).1 = true := by
  simp only [Table.charge, found, Table.take, if_neg (not_lt.mpr enough)]

/-! ### First calls -/

omit [DecidableEq κ] in
theorem Table.mem_of_mem_sweep {table : Table κ} {entry : κ × TokenBucket}
    (member : entry ∈ (table.sweep now).entries) : entry ∈ table.entries := by
  unfold Table.sweep at member
  split at member
  · exact member
  · exact List.mem_of_mem_filter member

theorem Table.charge_first (perMinute : Nat) {rest : List (κ × TokenBucket)} {tokens : ℚ} {next : Time}
    (absent : ∀ entry ∈ rest, entry.1 ≠ key) (notZero : now ≠ 0) (enough : 1 ≤ tokens) :
    Table.charge perMinute burst ⟨(key, ⟨tokens, now, now⟩) :: rest, next⟩ key now =
      (true, ⟨(key, ⟨tokens - 1, now, now⟩) :: rest, next⟩) := by
  have others : rest.filter (fun entry => entry.1 != key) = rest :=
    List.filter_eq_self.mpr fun entry member => bne_iff_ne.mpr (absent entry member)
  simp [Table.charge, Table.get, Table.take, refillBucket, Time.isZero, notZero, not_lt.mpr enough,
    Table.put, others]

/-- A key without a bucket starts with a full one, after the sweep. -/
theorem Table.charge_fresh (perMinute : Nat) (table : Table κ)
    (absent : ∀ entry ∈ table.entries, entry.1 ≠ key) (notZero : now ≠ 0) (positive : 0 < burst)
    (room : (table.sweep now).entries.length < maxAuthRateLimitEntries) :
    table.charge perMinute burst key now =
      (true, ⟨(key, ⟨burst - 1, now, now⟩) :: (table.sweep now).entries, (table.sweep now).nextSweep⟩) := by
  have missing : table.get key = none := by
    simpa [Table.get] using absent
  have enough : ¬ (burst : ℚ) < 1 := not_lt.mpr (by exact_mod_cast positive)
  have others : (table.sweep now).entries.filter (fun entry => entry.1 != key) =
      (table.sweep now).entries :=
    List.filter_eq_self.mpr fun entry member =>
      bne_iff_ne.mpr (absent entry (Table.mem_of_mem_sweep member))
  simp [Table.charge, missing, not_le.mpr room, Table.take, refillBucket, Time.isZero, notZero, enough,
    Table.put, others]

end Tables

/-! ## Windows -/

section Windows

variable {config} {limiter : Limiter} {address : Addr} {call : Call} {start length now : Int}

/-- A call leaves the address table alone, or charges the address. -/
theorem allow_clients (config : Config) (limiter : Limiter) (address : Addr) (now : Time) :
    (allow config limiter address now).1 = false ∧
        (allow config limiter address now).2.clients = limiter.clients ∨
      limiter.clients.charge config.perMinute config.burst address.unmap now =
        ((allow config limiter address now).1, (allow config limiter address now).2.clients) := by
  unfold allow
  simp only
  split
  · exact .inl ⟨rfl, rfl⟩
  · split
    · rename_i charged
      exact .inr charged
    · rename_i charged
      exact .inr charged

theorem allow_authenticated :
    (allow config limiter address now).2.authenticated = limiter.authenticated := by
  unfold allow
  simp only
  split
  · rfl
  · split <;> rfl

/-- The process-wide bucket is refilled, and pays for what is admitted. -/
theorem allow_global (config : Config) (limiter : Limiter) (address : Addr) (now : Time) :
    (allow config limiter address now).1 = false ∧
        (allow config limiter address now).2.global = limiter.refillGlobal config now ∨
      1 ≤ (limiter.refillGlobal config now).tokens ∧
        (allow config limiter address now).1 = true ∧
        (allow config limiter address now).2.global =
          { limiter.refillGlobal config now with
            tokens := (limiter.refillGlobal config now).tokens - 1
            lastSeen := now } := by
  unfold allow
  simp only
  split
  · exact .inl ⟨rfl, rfl⟩
  · rename_i enough
    split
    · exact .inl ⟨rfl, rfl⟩
    · exact .inr ⟨not_lt.mp enough, rfl, rfl⟩

theorem allowClient_authenticated {clientID : Uuid} (named : clientID ≠ Uuid.nil) :
    limiter.authenticated.charge config.perMinute config.burst clientID now =
      ((allowClient config limiter clientID now).1,
        (allowClient config limiter clientID now).2.authenticated) := by
  have notNil : (clientID == Uuid.nil) = false := by simpa using named
  simp only [allowClient, notNil, Bool.false_eq_true, if_false]

/-- A call for the address, between `start` and `start + length`. -/
def Call.asks (address : Addr) (start length : Int) : Call → Bool
  | .allow other now => other.unmap == address.unmap && start ≤ now && now ≤ start + length
  | .allowClient _ _ => false

/-- A call for the client, between `start` and `start + length`. -/
def Call.names (clientID : Uuid) (start length : Int) : Call → Bool
  | .allow _ _ => false
  | .allowClient other now => other == clientID && start ≤ now && now ≤ start + length

/-- A call for any address, between `start` and `start + length`. -/
def Call.arrives (start length : Int) : Call → Bool
  | .allow _ now => start ≤ now && now ≤ start + length
  | .allowClient _ _ => false

/-- The buckets of a table meter the calls for `key`, when every call leaves the table alone or charges
one key. -/
theorem table_meters {κ : Type} [DecidableEq κ] (config : Config) (table : Limiter → Table κ) (key : κ)
    {chosen : Call → Prop}
    (once : ∀ limiter call, call.now ≠ 0 →
      (table limiter).Kept config.perMinute config.burst call.now →
      table (step config limiter call).2 = table limiter ∧
          (chosen call → (step config limiter call).1 = false) ∨
        ∃ charged, (chosen call → charged = key) ∧
          (table limiter).Charges config.perMinute config.burst charged call.now
            ((step config limiter call).1, table (step config limiter call).2)) :
    Meters (step config) Call.now (fun call => call.now ≠ 0) chosen
      (fun limiter now => (table limiter).Kept config.perMinute config.burst now)
      (fun limiter now => (table limiter).level config.perMinute config.burst key now)
      (config.perMinute / 60 / 1000000000) config.burst where
  nonneg limiter now kept := kept.level_nonneg
  capped limiter now kept := kept.level_le
  waits limiter now later kept forward := kept.wait forward
  grows limiter now later kept forward := Table.level_grows forward
  keeps := by
    intro limiter call dated kept
    rcases once limiter call dated kept with ⟨same, -⟩ | ⟨charged, -, charges⟩
    · rw [same]
      exact kept
    · exact charges.kept
  pays := by
    intro limiter call dated kept isChosen admitted
    rcases once limiter call dated kept with ⟨-, refused⟩ | ⟨charged, isKey, charges⟩
    · rw [refused isChosen] at admitted
      exact absurd admitted Bool.false_ne_true
    · rw [← isKey isChosen]
      exact charges.pays admitted
  spares := by
    intro limiter call dated kept
    rcases once limiter call dated kept with ⟨same, -⟩ | ⟨charged, -, charges⟩
    · rw [same]
    · exact charges.spares _

/-- The bucket of an address meters its calls. -/
theorem clients_meter (moderate : config.burst ≤ 10 * config.perMinute) (address : Addr) :
    Meters (step config) Call.now (fun call => call.now ≠ 0)
      (fun call => ∃ other now, call = .allow other now ∧ other.unmap = address.unmap)
      (fun limiter now => limiter.clients.Kept config.perMinute config.burst now)
      (fun limiter now => limiter.clients.level config.perMinute config.burst address.unmap now)
      (config.perMinute / 60 / 1000000000) config.burst := by
  refine table_meters config Limiter.clients address.unmap fun limiter call dated kept => ?_
  cases call with
  | allow other now =>
    rcases allow_clients config limiter other now with ⟨refused, same⟩ | charged
    · exact .inl ⟨same, fun _ => refused⟩
    · have charges := Table.charge_charges kept dated moderate other.unmap
      rw [show limiter.clients.charge config.perMinute config.burst other.unmap
        (Call.allow other now).now = _ from charged] at charges
      refine .inr ⟨other.unmap, ?_, charges⟩
      rintro ⟨named, _, isCall, sameAddress⟩
      rw [(Call.allow.inj isCall).1, sameAddress]
  | allowClient clientID now =>
    refine .inl ⟨?_, nofun⟩
    simp only [step, allowClient]
    split <;> rfl

/-- The bucket of a client meters its calls. -/
theorem authenticated_meter (moderate : config.burst ≤ 10 * config.perMinute) {clientID : Uuid}
    (named : clientID ≠ Uuid.nil) :
    Meters (step config) Call.now (fun call => call.now ≠ 0)
      (fun call => ∃ now, call = .allowClient clientID now)
      (fun limiter now => limiter.authenticated.Kept config.perMinute config.burst now)
      (fun limiter now => limiter.authenticated.level config.perMinute config.burst clientID now)
      (config.perMinute / 60 / 1000000000) config.burst := by
  refine table_meters config Limiter.authenticated clientID fun limiter call dated kept => ?_
  cases call with
  | allow other now => exact .inl ⟨allow_authenticated, nofun⟩
  | allowClient other now =>
    by_cases isNil : other = Uuid.nil
    · refine .inl ⟨by simp [step, allowClient, isNil], ?_⟩
      rintro ⟨_, isCall⟩
      exact absurd ((Call.allowClient.inj isCall).1.symm.trans isNil) named
    · have charges := Table.charge_charges kept dated moderate other
      rw [show limiter.authenticated.charge config.perMinute config.burst other
        (Call.allowClient other now).now = _ from allowClient_authenticated isNil] at charges
      exact .inr ⟨other, fun ⟨_, isCall⟩ => (Call.allowClient.inj isCall).1, charges⟩

/-- The process-wide bucket meters every call for an address. -/
theorem global_meters (config : Config) :
    Meters (step config) Call.now (fun call => call.now ≠ 0)
      (fun call => ∃ address now, call = .allow address now)
      (fun limiter _ => limiter.global.Sane config.globalBurst)
      (fun limiter now => limiter.global.level config.globalPerSecond config.globalBurst now)
      (config.globalPerSecond / 1000000000) config.globalBurst := by
  have rateNonneg : (0 : ℚ) ≤ config.globalPerSecond := Nat.cast_nonneg _
  -- One case per call: the bucket is only refilled, or pays.
  have once : ∀ limiter address now, now ≠ 0 → limiter.global.Sane config.globalBurst →
      (allow config limiter address now).2.global.Sane config.globalBurst ∧
        (allow config limiter address now).2.global.level config.globalPerSecond config.globalBurst
              now + (if (allow config limiter address now).1 then 1 else 0) =
          limiter.global.level config.globalPerSecond config.globalBurst now := by
    intro limiter address now dated sane
    have refilled : (limiter.refillGlobal config now).Sane config.globalBurst :=
      sane.refill rateNonneg dated
    have tokens : (limiter.refillGlobal config now).tokens = _ := sane.refill_tokens rateNonneg
    obtain ⟨notZero, notBefore⟩ : (limiter.refillGlobal config now).last ≠ 0 ∧
        ¬ (limiter.refillGlobal config now).last < now := refill_last dated
    rw [← tokens]
    rcases allow_global config limiter address now with
      ⟨refused, same⟩ | ⟨enough, admitted, paid⟩
    · rw [same, refused]
      exact ⟨refilled, by simp [TokenBucket.level, notBefore]⟩
    · rw [paid, admitted]
      refine ⟨⟨by linarith, ?_, fun isZero => absurd isZero notZero⟩, ?_⟩
      · have capped := refilled.capped
        simp only
        linarith
      · simp [TokenBucket.level, notBefore]
  have elsewhere : ∀ limiter clientID now,
      (step config limiter (.allowClient clientID now)).2.global = limiter.global := by
    intro limiter clientID now
    simp only [step, allowClient]
    split <;> rfl
  exact
    { nonneg := fun limiter now sane => sane.level_nonneg rateNonneg
      capped := fun limiter now sane => sane.level_le
      waits := fun limiter now later sane forward => sane
      grows := fun limiter now later sane forward => TokenBucket.level_grows rateNonneg forward
      keeps := by
        intro limiter call dated sane
        cases call with
        | allow address now => exact (once limiter address now dated sane).1
        | allowClient clientID now =>
          rw [elsewhere]
          exact sane
      pays := by
        rintro limiter call dated sane ⟨address, now, rfl⟩ admitted
        have paid := (once limiter address now dated sane).2
        rw [show (allow config limiter address now).1 = true from admitted, if_pos rfl] at paid
        exact paid.le
      spares := by
        intro limiter call dated sane
        cases call with
        | allow address now =>
          have paid := (once limiter address now dated sane).2
          have cost : (0 : ℚ) ≤ if (allow config limiter address now).1 then 1 else 0 := by
            split <;> norm_num
          simp only [step, Call.now]
          linarith
        | allowClient clientID now => rw [elsewhere] }

/-- What a rate per minute admits in a window, in seconds. -/
theorem perMinute_window (start : Int) {chosen : Call → Prop} {counted : Call → Bool}
    {holds : Limiter → Int → Prop} {level : Limiter → Int → ℚ}
    (meters : Meters (step config) Call.now (fun call => call.now ≠ 0) chosen holds level
      (config.perMinute / 60 / 1000000000) config.burst)
    (counts : ∀ call, counted call = true →
      chosen call ∧ start ≤ call.now ∧ call.now ≤ start + length)
    (forward : 0 ≤ length) (made : Time) {first : Time} (held : holds (newLimiter config made) first)
    {calls : List Call} (ordered : Ordered Call.now first calls) (dated : ∀ call ∈ calls, call.now ≠ 0) :
    (admitted (step config) counted (newLimiter config made) calls : ℚ) ≤
      config.burst + config.perMinute * (length / 1000000000) / 60 := by
  have rateNonneg : (0 : ℚ) ≤ config.perMinute / 60 / 1000000000 :=
    div_nonneg (div_nonneg (Nat.cast_nonneg _) (by norm_num)) (by norm_num)
  have inSeconds : (config.perMinute : ℚ) * (length / 1000000000) / 60 =
      config.perMinute / 60 / 1000000000 * length := by ring
  rw [inSeconds]
  exact meters.window rateNonneg forward counts calls _ first held ordered dated

theorem address_window (moderate : config.burst ≤ 10 * config.perMinute) (address : Addr)
    (made first : Time) (calls : List Call) (ordered : Ordered Call.now first calls)
    (dated : ∀ call ∈ calls, call.now ≠ 0) (start length : Int) (forward : 0 ≤ length) :
    (admitted (step config) (Call.asks address start length) (newLimiter config made) calls : ℚ)
      ≤ config.burst + config.perMinute * (length / 1000000000) / 60 := by
  refine perMinute_window start (clients_meter moderate address) (fun call asked => ?_) forward
    made ⟨List.nodup_nil, nofun⟩ ordered dated
  cases call with
  | allow other now =>
    simp only [Call.asks, Bool.and_eq_true, beq_iff_eq, decide_eq_true_eq] at asked
    exact ⟨⟨other, now, rfl, asked.1.1⟩, asked.1.2, asked.2⟩
  | allowClient clientID now => exact absurd asked Bool.false_ne_true

theorem client_window (moderate : config.burst ≤ 10 * config.perMinute) {clientID : Uuid}
    (named : clientID ≠ Uuid.nil) (made first : Time) (calls : List Call)
    (ordered : Ordered Call.now first calls) (dated : ∀ call ∈ calls, call.now ≠ 0)
    (start length : Int) (forward : 0 ≤ length) :
    (admitted (step config) (Call.names clientID start length) (newLimiter config made) calls : ℚ)
      ≤ config.burst + config.perMinute * (length / 1000000000) / 60 := by
  refine perMinute_window start (authenticated_meter moderate named) (fun call asked => ?_) forward
    made ⟨List.nodup_nil, nofun⟩ ordered dated
  cases call with
  | allow other now => exact absurd asked Bool.false_ne_true
  | allowClient other now =>
    simp only [Call.names, Bool.and_eq_true, beq_iff_eq, decide_eq_true_eq] at asked
    exact ⟨⟨now, by rw [asked.1.1]⟩, asked.1.2, asked.2⟩

/-- The limit of an address, and of a client, while the burst is at most what ten minutes bring. -/
theorem address_and_client_windows (config : Config)
    (moderate : config.burst ≤ 10 * config.perMinute) (made first : Time) (calls : List Call)
    (ordered : Ordered Call.now first calls) (dated : ∀ call ∈ calls, call.now ≠ 0)
    (start length : Int) (forward : 0 ≤ length) :
    (∀ address, (admitted (step config) (Call.asks address start length) (newLimiter config made) calls : ℚ)
        ≤ config.burst + config.perMinute * (length / 1000000000) / 60) ∧
      ∀ clientID ≠ Uuid.nil,
        (admitted (step config) (Call.names clientID start length) (newLimiter config made) calls : ℚ)
          ≤ config.burst + config.perMinute * (length / 1000000000) / 60 :=
  ⟨fun address => address_window moderate address made first calls ordered dated start length forward,
    fun _ named => client_window moderate named made first calls ordered dated start length forward⟩

/-- An address and a client call, and again eleven minutes later, after a call of another address and
one of another client at which their buckets are swept. -/
def Sample.calls : List Call :=
  [.allow (.v4 1) 1, .allowClient 7 1, .allow (.v4 2) (1 + minutes 11), .allowClient 8 (1 + minutes 11),
    .allow (.v4 1) (1 + minutes 11), .allowClient 7 (1 + minutes 11)]

theorem address_and_client_windows_sample :
    (admitted (step ⟨1, 1, 1, 2, by decide⟩) (Call.asks (.v4 1) 1 (minutes 11))
        (newLimiter ⟨1, 1, 1, 2, by decide⟩ 1) Sample.calls : ℚ) ≤
      (1 : Nat) + (1 : Nat) * (minutes 11 / 1000000000) / 60 ∧
    (admitted (step ⟨1, 1, 1, 2, by decide⟩) (Call.names 7 1 (minutes 11))
        (newLimiter ⟨1, 1, 1, 2, by decide⟩ 1) Sample.calls : ℚ) ≤
      (1 : Nat) + (1 : Nat) * (minutes 11 / 1000000000) / 60 :=
  have windows := address_and_client_windows ⟨1, 1, 1, 2, by decide⟩ (by decide) 1 1 Sample.calls
    (by decide) (by decide) 1 (minutes 11) (by decide)
  ⟨windows.1 (.v4 1), windows.2 7 (by decide)⟩

example : admitted (step ⟨1, 1, 1, 2, by decide⟩) (Call.names 7 1 (minutes 11))
    (newLimiter ⟨1, 1, 1, 2, by decide⟩ 1) Sample.calls = 2 := by
  decide +kernel

/-- One token a minute, and a burst of twelve: twelve requests, ten minutes later one of another address,
and twelve requests again. Ten minutes bring ten tokens. -/
theorem forgotten_bucket_refills :
    ¬ ∀ (config : Config) (made first : Time) (calls : List Call),
      Ordered Call.now first calls → (∀ call ∈ calls, call.now ≠ 0) →
      ∀ start length : Int, 0 ≤ length → ∀ address,
        (admitted (step config) (Call.asks address start length) (newLimiter config made) calls : ℚ)
          ≤ config.burst + config.perMinute * (length / 1000000000) / 60 := by
  intro everywhere
  have bound := everywhere ⟨1, 12, 100, 100, by decide⟩ 1 1
    (List.replicate 12 (.allow (.v4 1) 1) ++ .allow (.v4 2) (2 + minutes 10) ::
      List.replicate 12 (.allow (.v4 1) (2 + minutes 10)))
    (by decide) (by decide) 1 (minutes 10 + 1) (by decide) (.v4 1)
  revert bound
  decide +kernel

/-- The process-wide limit, the bound on the address table, what a rejected call costs and what a known
address can rely on. -/
theorem global_window_and_table_bound (config : Config) (made first : Time) (calls : List Call)
    (ordered : Ordered Call.now first calls) (dated : ∀ call ∈ calls, call.now ≠ 0) :
    (∀ start length : Int, 0 ≤ length →
      (admitted (step config) (Call.arrives start length) (newLimiter config made) calls : ℚ) ≤
        config.globalBurst + config.globalPerSecond * (length / 1000000000)) ∧
    (after (step config) (newLimiter config made) calls).clients.entries.length ≤
      maxAuthRateLimitEntries ∧
    ∀ (limiter : Limiter) (address : Addr) (now : Time),
      ((allow config limiter address now).1 = false →
        (allow config limiter address now).2.global = limiter.refillGlobal config now) ∧
      ∀ bucket, limiter.clients.get address.unmap = some bucket →
        1 ≤ (refillBucket bucket (config.perMinute / 60) config.burst now).tokens →
        1 ≤ (limiter.refillGlobal config now).tokens →
        (allow config limiter address now).1 = true := by
  refine ⟨?_, ?_, ?_⟩
  · intro start length forward
    have rateNonneg : (0 : ℚ) ≤ config.globalPerSecond / 1000000000 :=
      div_nonneg (Nat.cast_nonneg _) (by norm_num)
    have inSeconds : (config.globalPerSecond : ℚ) * (length / 1000000000) =
        config.globalPerSecond / 1000000000 * length := by ring
    rw [inSeconds]
    have counts : ∀ call, Call.arrives start length call = true →
        (∃ address now, call = .allow address now) ∧ start ≤ call.now ∧ call.now ≤ start + length := by
      intro call asked
      cases call with
      | allow address now =>
        simp only [Call.arrives, Bool.and_eq_true, decide_eq_true_eq] at asked
        exact ⟨⟨address, now, rfl⟩, asked⟩
      | allowClient clientID now => exact absurd asked Bool.false_ne_true
    exact (global_meters config).window rateNonneg forward counts calls _ first
      ⟨Nat.cast_nonneg _, le_rfl, fun _ => rfl⟩ ordered dated
  · have small : ∀ (limiter : Limiter) (call : Call), call.now ≠ 0 →
        limiter.clients.entries.length ≤ maxAuthRateLimitEntries →
        (step config limiter call).2.clients.entries.length ≤ maxAuthRateLimitEntries := by
      intro limiter call _ bounded
      cases call with
      | allow address now =>
        rcases allow_clients config limiter address now
          with ⟨-, same⟩ | charged
        · rw [step, same]
          exact bounded
        · have small := Table.charge_length config.perMinute config.burst address.unmap now bounded
          rwa [charged] at small
      | allowClient clientID now =>
        simp only [step, allowClient]
        split
        · exact bounded
        · exact bounded
    exact after_invariant small calls (newLimiter config made) (Nat.zero_le _) dated
  · intro limiter address now
    constructor
    · intro refused
      rcases allow_global config limiter address now with
        ⟨-, same⟩ | ⟨-, admitted, -⟩
      · exact same
      · exact absurd (refused.symm.trans admitted) Bool.false_ne_true
    · intro bucket found own shared
      have charged := Table.charge_of_get found own
      simp only [allow, if_neg (not_lt.mpr shared)]
      split
      · rename_i refused
        rw [refused] at charged
        exact absurd charged Bool.false_ne_true
      · rfl

/-- Three requests of two addresses, two of them at once. -/
theorem global_window_and_table_bound_sample :
    (admitted (step ⟨1, 1, 1, 1, by decide⟩) (Call.arrives 1 0) (newLimiter ⟨1, 1, 1, 1, by decide⟩ 1)
        [.allow (.v4 1) 1, .allow (.v4 2) 1, .allow (.v4 2) (1 + minutes 1)] : ℚ) ≤
      (1 : Nat) + (1 : Nat) * ((0 : Int) / 1000000000) :=
  (global_window_and_table_bound ⟨1, 1, 1, 1, by decide⟩ 1 1
    [.allow (.v4 1) 1, .allow (.v4 2) 1, .allow (.v4 2) (1 + minutes 1)] (by decide) (by decide)).1
    1 0 (by decide)

/-- At Go's zero time every call finds a full process-wide bucket. -/
theorem zero_time_refills :
    ¬ ∀ (config : Config) (made first : Time) (calls : List Call), Ordered Call.now first calls →
      ∀ start length : Int, 0 ≤ length →
        (admitted (step config) (Call.arrives start length) (newLimiter config made) calls : ℚ) ≤
          config.globalBurst + config.globalPerSecond * (length / 1000000000) := by
  intro everywhere
  have bound := everywhere ⟨1, 1, 1, 1, by decide⟩ 0 0 [.allow (.v4 1) 0, .allow (.v4 2) 0]
    (by decide) 0 0 (by decide)
  revert bound
  decide +kernel

end Windows

/-! ## Forgotten buckets -/

section Exceeded

variable {config} {clientID : Uuid} {start length : Int} {now : Time} {global : TokenBucket}
  {clients : Table Addr} {table : Table Uuid}

theorem step_allowClient (config : Config) (named : clientID ≠ Uuid.nil) {answer : Bool}
    {next : Table Uuid}
    (charged : table.charge config.perMinute config.burst clientID now = (answer, next)) :
    step config ⟨global, clients, table⟩ (.allowClient clientID now) =
      (answer, ⟨global, clients, next⟩) := by
  have notNil : (clientID == Uuid.nil) = false := by simpa using named
  simp only [step, allowClient, notNil, Bool.false_eq_true, if_false, charged]

/-- A bucket with `n` tokens admits `n` calls of its client at one time. -/
theorem admitted_drain (named : clientID ≠ Uuid.nil) (notZero : now ≠ 0)
    (counted : Call.names clientID start length (.allowClient clientID now) = true)
    {rest : List (Uuid × TokenBucket)} (absent : ∀ entry ∈ rest, entry.1 ≠ clientID) (next : Time)
    (calls : List Call) (n : Nat) :
    admitted (step config) (Call.names clientID start length)
        ⟨global, clients, ⟨(clientID, ⟨n, now, now⟩) :: rest, next⟩⟩
        (List.replicate n (.allowClient clientID now) ++ calls) =
      n + admitted (step config) (Call.names clientID start length)
        ⟨global, clients, ⟨(clientID, ⟨0, now, now⟩) :: rest, next⟩⟩ calls := by
  induction n with
  | zero => simp
  | succ n ih =>
    have enough : (1 : ℚ) ≤ (n + 1 : Nat) := by exact_mod_cast Nat.succ_pos n
    have left : ((n + 1 : Nat) : ℚ) - 1 = n := by
      push_cast
      ring
    rw [List.replicate_succ, List.cons_append, admitted,
      step_allowClient config named (Table.charge_first config.perMinute absent notZero enough), counted,
      left]
    simp only [Bool.and_self, if_true]
    rw [ih, Nat.add_comm n 1, Nat.add_assoc]

/-- A client without a bucket is admitted as often as the burst says. -/
theorem admitted_burst (config : Config) (table : Table Uuid) (named : clientID ≠ Uuid.nil)
    (notZero : now ≠ 0)
    (counted : Call.names clientID start length (.allowClient clientID now) = true)
    (absent : ∀ entry ∈ table.entries, entry.1 ≠ clientID)
    (room : (table.sweep now).entries.length < maxAuthRateLimitEntries) (calls : List Call) :
    admitted (step config) (Call.names clientID start length) ⟨global, clients, table⟩
        (List.replicate config.burst (.allowClient clientID now) ++ calls) =
      config.burst + admitted (step config) (Call.names clientID start length)
        ⟨global, clients,
          ⟨(clientID, ⟨0, now, now⟩) :: (table.sweep now).entries, (table.sweep now).nextSweep⟩⟩ calls := by
  obtain ⟨n, isBurst⟩ := Nat.exists_eq_succ_of_ne_zero config.positive.2.1.ne'
  have swept : ∀ entry ∈ (table.sweep now).entries, entry.1 ≠ clientID :=
    fun entry member => absent entry (Table.mem_of_mem_sweep member)
  have left : (config.burst : ℚ) - 1 = n := by
    rw [isBurst]
    push_cast
    ring
  rw [isBurst, List.replicate_succ, List.cons_append, admitted,
    step_allowClient config named
      (Table.charge_fresh config.perMinute table absent notZero config.positive.2.1 room), counted, left]
  simp only [Bool.and_self, if_true]
  rw [admitted_drain named notZero counted swept, Nat.succ_eq_add_one, Nat.add_comm n 1, Nat.add_assoc]

/-- A burst of the client, ten minutes and a nanosecond later a call of another client, and a burst
again. -/
def forgottenCalls (config : Config) (clientID : Uuid) (made : Time) : List Call :=
  List.replicate config.burst (.allowClient clientID made) ++
    .allowClient (clientID + 1) (made + (authRateEntryTTL + 1)) ::
      List.replicate config.burst (.allowClient clientID (made + (authRateEntryTTL + 1)))

/-- Both bursts are admitted: the sweep at the call of the other client forgets the empty bucket. -/
theorem forgottenCalls_admitted (config : Config) (named : clientID ≠ Uuid.nil) {made : Time}
    (dated : 0 < made) :
    admitted (step config) (Call.names clientID made (authRateEntryTTL + 1)) (newLimiter config made)
      (forgottenCalls config clientID made) = config.burst + config.burst := by
  unfold forgottenCalls
  obtain ⟨later, isLater⟩ : ∃ later, later = made + (authRateEntryTTL + 1) := ⟨_, rfl⟩
  rw [← isLater]
  have interval : 0 < authRateSweepInterval ∧ authRateSweepInterval ≤ authRateEntryTTL := by decide
  have laterDated : later ≠ 0 := by lia
  have counted : ∀ now, made ≤ now → now ≤ later →
      Call.names clientID made (authRateEntryTTL + 1) (.allowClient clientID now) = true := by
    intro now early late
    simp [Call.names, early, isLater ▸ late]
  have uncounted : Call.names clientID made (authRateEntryTTL + 1) (.allowClient (clientID + 1) later) =
      false := by
    simp [Call.names]
  have notDue : ∀ (entries : List (Uuid × TokenBucket)) (now : Time),
      Table.sweep ⟨entries, now + authRateSweepInterval⟩ now = ⟨entries, now + authRateSweepInterval⟩ := by
    intro entries now
    rw [Table.sweep, if_pos (by lia)]
  have forgotten : Table.sweep ⟨[(clientID, ⟨0, made, made⟩)], made + authRateSweepInterval⟩ later =
      ⟨[], later + authRateSweepInterval⟩ := by
    have due : ¬ later < made + authRateSweepInterval := by lia
    have idle : made < later - authRateEntryTTL := by lia
    simp [Table.sweep, due, idle]
  have otherNamed : clientID + 1 ≠ Uuid.nil := Nat.succ_ne_zero clientID
  have emptyRoom : 0 < maxAuthRateLimitEntries ∧ 1 < maxAuthRateLimitEntries := by decide
  rw [newLimiter, admitted_burst config ⟨[], made + authRateSweepInterval⟩ named dated.ne'
      (counted made le_rfl (by lia)) (by simp) (by rw [notDue]; exact emptyRoom.1), notDue, admitted,
    uncounted, step_allowClient config otherNamed (Table.charge_fresh config.perMinute
      ⟨[(clientID, ⟨0, made, made⟩)], made + authRateSweepInterval⟩ (by simp) laterDated
      config.positive.2.1 (by rw [forgotten]; exact emptyRoom.1)), forgotten,
    ← List.append_nil (List.replicate config.burst (Call.allowClient clientID later)),
    admitted_burst config
      ⟨[(clientID + 1, ⟨config.burst - 1, later, later⟩)], later + authRateSweepInterval⟩ named laterDated
      (counted later (by lia) le_rfl) (by simp) (by rw [notDue]; exact emptyRoom.2)]
  simp [admitted]

theorem ordered_forgottenCalls (config : Config) (clientID : Uuid) (made : Time) :
    Ordered Call.now made (forgottenCalls config clientID made) := by
  have forward : made ≤ made + (authRateEntryTTL + 1) := le_add_of_nonneg_right (by decide)
  refine ordered_replicate_append config.burst le_rfl fun now early => ⟨early.trans forward, ?_⟩
  rw [← List.append_nil (List.replicate _ _)]
  exact ordered_replicate_append config.burst le_rfl fun _ _ => trivial

theorem dated_forgottenCalls (config : Config) (clientID : Uuid) {made : Time} (dated : 0 < made) :
    ∀ call ∈ forgottenCalls config clientID made, call.now ≠ 0 := by
  have later : 0 < made + (authRateEntryTTL + 1) := add_pos dated (by decide)
  intro call member
  simp only [forgottenCalls, List.mem_append, List.mem_cons, List.mem_replicate] at member
  rcases member with ⟨-, rfl⟩ | rfl | ⟨-, rfl⟩
  · exact dated.ne'
  · exact later.ne'
  · exact later.ne'

/-- The limit of a client holds exactly while the burst is no more than ten minutes bring. The
configuration admits rates up to 60000 a minute. -/
theorem client_window_iff (config : Config) (configured : config.perMinute ≤ 60000)
    (named : clientID ≠ Uuid.nil) :
    (∀ (made first : Time) (calls : List Call), Ordered Call.now first calls →
      (∀ call ∈ calls, call.now ≠ 0) → ∀ start length : Int, 0 ≤ length →
      (admitted (step config) (Call.names clientID start length) (newLimiter config made) calls : ℚ)
        ≤ config.burst + config.perMinute * (length / 1000000000) / 60) ↔
      config.burst ≤ 10 * config.perMinute := by
  constructor
  · intro everywhere
    by_contra! large
    have bound := everywhere 1 1 (forgottenCalls config clientID 1)
      (ordered_forgottenCalls config clientID 1) (dated_forgottenCalls config clientID Int.one_pos) 1
      (authRateEntryTTL + 1) (by decide)
    rw [forgottenCalls_admitted config named Int.one_pos] at bound
    have ttl : authRateEntryTTL + 1 = 600000000001 := by decide
    have more : (10 * config.perMinute + 1 : ℚ) ≤ config.burst := by exact_mod_cast large
    have rate : (config.perMinute : ℚ) ≤ 60000 := by exact_mod_cast configured
    rw [ttl] at bound
    push_cast at bound
    linarith
  · intro moderate made first calls ordered dated start length forward
    exact client_window moderate named made first calls ordered dated start length forward

end Exceeded

end OneIssuer.RateLimit
