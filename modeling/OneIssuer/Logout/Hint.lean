import OneIssuer.Lifetime

/-!
# Claims of a logout hint

`verifyHint` decides about the claims of a signed ID token the way `verifyAccessToken` decides about
those of an access token, with other arithmetic: the one subtracts two times, which saturates, the
other multiplies a difference of `int64`, which wraps around. Both make their times with `time.Unix`,
whose sum wraps around as well.

The lifetime of an accepted token is bounded unless one of these leaves its range: `AccessEscapes` and
`HintEscapes` are the claims for which this happens while the token is also timely.

**What it does not establish.** Whether the signature of a hint is genuine, and the lookup of its
client.
-/

set_option autoImplicit false

namespace OneIssuer.Logout

open Token

/-! ## Arithmetic of `time` -/

/-- `Time.Add`: the seconds saturate. -/
def timeAdd (t : Time) (d : Int) : Time :=
  let sum := t + d
  if 2 ^ 63 ≤ sum / 1000000000 then seconds (2 ^ 63 - 1) + sum % 1000000000
  else if sum / 1000000000 < -2 ^ 63 then seconds (-(2 ^ 63 - 1)) + sum % 1000000000
  else sum

/-- `Time.Sub`: the difference saturates at the ends of `time.Duration`. -/
def timeSub (t u : Time) : Int := max (-2 ^ 63) (min (2 ^ 63 - 1) (t - u))

theorem timeAdd_eq {t : Time} {d : Int} (low : seconds (-2 ^ 63) ≤ t + d)
    (high : t + d < seconds (2 ^ 63)) : timeAdd t d = t + d := by
  have notAbove : ¬2 ^ 63 ≤ (t + d) / 1000000000 := by
    simp only [seconds] at high
    lia
  have notBelow : ¬(t + d) / 1000000000 < -2 ^ 63 := by
    simp only [seconds] at low
    lia
  simp only [timeAdd, if_neg notAbove, if_neg notBelow]

/-- A saturated difference is at most a bound inside the range exactly when the difference is. -/
theorem timeSub_le_iff {t u : Time} {bound : Int} (low : -2 ^ 63 ≤ bound) (high : bound < 2 ^ 63 - 1) :
    timeSub t u ≤ bound ↔ t - u ≤ bound := by
  simp only [timeSub]
  lia

/-- A time in the range of `time.Time` is made as it is. -/
theorem timeUnix_inRange {value : Int64} (low : 0 < value.toInt)
    (high : value.toInt + 62135596800 < 2 ^ 63) : timeUnix value = Time.ofUnix value.toInt :=
  timeUnix_eq (by lia) high

/-! ## The checks -/

/-- The configuration of the logout service that the hint is checked against. -/
structure HintPolicy where
  issuer : String
  hintMaxAge : Int
  clockSkew : Int
  hintMaxAge_bounded : minutes 5 ≤ hintMaxAge ∧ hintMaxAge ≤ minutes (30 * 24 * 60)
  clockSkew_bounded : 0 ≤ clockSkew ∧ clockSkew ≤ minutes 5

/-- `maxIDTokenLifetime`. -/
def maxIDTokenLifetime : Int := minutes 15

/-- `maxHintSubjectBytes`. -/
def maxHintSubjectBytes : Nat := 255

/-- The claims a hint may have at `now`: the last two conditions of `verifyHint`. -/
def HintPolicy.claimsValid (policy : HintPolicy) (claims : IDTokenClaims) (now : Time) : Bool :=
  let issuedAt := timeUnix claims.issuedAt
  let expiresAt := timeUnix claims.expiresAt
  claims.issuer == policy.issuer && claims.audience != "" &&
    claims.authorizedParty == claims.audience && claims.subject != "" &&
    claims.subject.utf8ByteSize ≤ maxHintSubjectBytes && !claims.subject.toList.contains '\x00' &&
    0 < claims.issuedAt && claims.issuedAt < claims.expiresAt && 0 < claims.authTime &&
    timeSub expiresAt issuedAt ≤ maxIDTokenLifetime && issuedAt ≤ timeAdd now policy.clockSkew &&
    (now ≤ timeAdd expiresAt policy.clockSkew ||
      now ≤ timeAdd (timeAdd issuedAt policy.hintMaxAge) policy.clockSkew)

/-! ## Bounded lifetimes -/

/-- The years 1970 to 9999. -/
def Modern (now : Time) : Prop := Time.ofUnix 0 ≤ now ∧ now < Time.ofUnix 253402300800

/-- A token that is issued after 1970 and lasts at most `bound` seconds. -/
def Lasts (issuedAt expiresAt : Int64) (bound : Int) : Prop :=
  0 < issuedAt.toInt ∧ issuedAt.toInt < expiresAt.toInt ∧ expiresAt.toInt - issuedAt.toInt ≤ bound

/-- The access token is timely, lasts longer than 30 minutes, and its lifetime in nanoseconds lies in
the half below a multiple of `2 ^ 64` or at most 30 minutes above it. -/
def AccessEscapes (clockSkew : Int) (issuedAt expiresAt : Int64) (now : Time) : Prop :=
  0 < issuedAt.toInt ∧ issuedAt.toInt + 1800 < expiresAt.toInt ∧
    expiresAt.toInt + 62135596800 < 2 ^ 63 ∧ now - clockSkew ≤ Time.ofUnix expiresAt.toInt ∧
    Time.ofUnix issuedAt.toInt ≤ now + clockSkew ∧
    ∃ turns : Int, 2 ^ 64 * turns - 2 ^ 63 ≤ seconds (expiresAt.toInt - issuedAt.toInt) ∧
      seconds (expiresAt.toInt - issuedAt.toInt) ≤ 2 ^ 64 * turns + minutes 30

/-- The hint is recent, and its end has no `time.Time`. -/
def HintEscapes (policy : HintPolicy) (issuedAt expiresAt : Int64) (now : Time) : Prop :=
  0 < issuedAt.toInt ∧ 2 ^ 63 ≤ expiresAt.toInt + 62135596800 ∧
    Time.ofUnix issuedAt.toInt ≤ now + policy.clockSkew ∧
    now ≤ Time.ofUnix issuedAt.toInt + policy.hintMaxAge + policy.clockSkew

section Access

variable {service : Service} {issuedAt expiresAt : Int64} {now : Time}

/-- What the access-token checks say about the two times. -/
def AccessTimely (clockSkew : Int) (issuedAt expiresAt : Int64) (now : Time) : Prop :=
  0 < issuedAt ∧ issuedAt < expiresAt ∧ now - clockSkew ≤ timeUnix expiresAt ∧
    timeUnix issuedAt ≤ now + clockSkew ∧ (expiresAt - issuedAt) * 1000000000 ≤ 1800000000000

theorem accessTimely_of_claimsValid {claims : AccessTokenClaims}
    (valid : service.claimsValid claims now) :
    AccessTimely service.clockSkew claims.issuedAt claims.expiresAt now := by
  simp only [Service.claimsValid, Bool.and_eq_true, decide_eq_true_eq] at valid
  obtain ⟨⟨⟨⟨⟨⟨⟨_, issued⟩, ordered⟩, notOver⟩, notEarly⟩, short⟩, _⟩, _⟩ := valid
  exact ⟨issued, ordered, notOver, notEarly, short⟩

/-- Timely claims are accepted together with some other claims. -/
theorem exists_accessClaims (timely : AccessTimely service.clockSkew issuedAt expiresAt now) :
    ∃ claims : AccessTokenClaims, claims.issuedAt = issuedAt ∧ claims.expiresAt = expiresAt ∧
      service.claimsValid claims now := by
  obtain ⟨issued, ordered, notOver, notEarly, short⟩ := timely
  let jti : RandomBytes 16 := ⟨List.replicate 16 0, by decide⟩
  refine ⟨⟨service.issuer, "subject", service.userinfoAudience, "client", "openid", issuedAt,
    expiresAt, newJTI jti⟩, rfl, rfl, ?_⟩
  have scope : (parseScopeClaim "openid").any (fun scopes => scopes.contains "openid") = true := by
    decide
  simp only [Service.claimsValid, beq_self_eq_true, validJTI_newJTI jti, scope, decide_eq_true issued,
    decide_eq_true ordered, decide_eq_true notOver, decide_eq_true notEarly, decide_eq_true short,
    Bool.true_and, Bool.and_true]
  decide

/-- The product of the lifetime is small exactly when the lifetime lies close above or in the half
below a multiple of `2 ^ 64` nanoseconds. -/
theorem product_le_iff (issued : 0 < issuedAt.toInt) (ordered : issuedAt.toInt < expiresAt.toInt) :
    (expiresAt - issuedAt) * 1000000000 ≤ 1800000000000 ↔
      ∃ turns : Int, 2 ^ 64 * turns - 2 ^ 63 ≤ seconds (expiresAt.toInt - issuedAt.toInt) ∧
        seconds (expiresAt.toInt - issuedAt.toInt) ≤ 2 ^ 64 * turns + minutes 30 := by
  have bound := expiresAt.toInt_lt
  have difference : (expiresAt - issuedAt).toInt = expiresAt.toInt - issuedAt.toInt := by
    rw [Int64.toInt_sub, Int.bmod_eq_of_le (by lia) (by lia)]
  have factor : (1000000000 : Int64).toInt = 1000000000 := by decide
  have limit : (1800000000000 : Int64).toInt = 1800000000000 := by decide
  rw [Int64.le_iff_toInt_le, Int64.toInt_mul, difference, factor, limit]
  generalize expiresAt.toInt - issuedAt.toInt = lifetime
  simp only [seconds, minutes]
  constructor
  · intro small
    exact ⟨(lifetime * 1000000000 + 2 ^ 63) / 2 ^ 64, by simp only [Int.bmod] at small; lia,
      by simp only [Int.bmod] at small; lia⟩
  · rintro ⟨turns, low, high⟩
    simp only [Int.bmod]
    lia

/-- Timely claims that do not escape the check last at most 30 minutes. -/
theorem lasts_of_accessTimely {clockSkew : Int} (skew : clockSkew ≤ minutes 2) (modern : Modern now)
    (timely : AccessTimely clockSkew issuedAt expiresAt now)
    (caught : ¬AccessEscapes clockSkew issuedAt expiresAt now) : Lasts issuedAt expiresAt 1800 := by
  obtain ⟨issued, ordered, notOver, notEarly, short⟩ := timely
  have positive : 0 < issuedAt.toInt := Int64.lt_iff_toInt_lt.mp issued
  have after : issuedAt.toInt < expiresAt.toInt := Int64.lt_iff_toInt_lt.mp ordered
  -- A wrapped end lies before 1970, so the token would have expired.
  have inRange : expiresAt.toInt + 62135596800 < 2 ^ 63 := by
    by_contra outside
    have negative := timeUnix_neg expiresAt (Int.not_lt.mp outside)
    have begun := modern.1
    simp only [Time.ofUnix, seconds, minutes] at begun skew
    lia
  refine ⟨positive, after, ?_⟩
  by_contra long
  rw [timeUnix_inRange (positive.trans after) inRange] at notOver
  rw [timeUnix_inRange positive (by lia)] at notEarly
  exact caught ⟨positive, by lia, inRange, notOver, notEarly,
    (product_le_iff positive after).mp short⟩

theorem accessTimely_of_escapes {clockSkew : Int}
    (escapes : AccessEscapes clockSkew issuedAt expiresAt now) :
    AccessTimely clockSkew issuedAt expiresAt now := by
  obtain ⟨positive, long, inRange, notOver, notEarly, turns⟩ := escapes
  have after : issuedAt.toInt < expiresAt.toInt := by lia
  refine ⟨Int64.lt_iff_toInt_lt.mpr positive, Int64.lt_iff_toInt_lt.mpr after, ?_, ?_,
    (product_le_iff positive after).mpr turns⟩
  · rwa [timeUnix_inRange (by lia) inRange]
  · rwa [timeUnix_inRange positive (by lia)]

end Access

section Hint

variable {policy : HintPolicy} {issuedAt expiresAt : Int64} {now : Time}

/-- What the hint checks say about the two times. -/
def HintTimely (policy : HintPolicy) (issuedAt expiresAt : Int64) (now : Time) : Prop :=
  0 < issuedAt ∧ issuedAt < expiresAt ∧
    timeSub (timeUnix expiresAt) (timeUnix issuedAt) ≤ maxIDTokenLifetime ∧
    timeUnix issuedAt ≤ timeAdd now policy.clockSkew ∧
    (now ≤ timeAdd (timeUnix expiresAt) policy.clockSkew ∨
      now ≤ timeAdd (timeAdd (timeUnix issuedAt) policy.hintMaxAge) policy.clockSkew)

theorem hintTimely_of_claimsValid {claims : IDTokenClaims}
    (valid : policy.claimsValid claims now) :
    HintTimely policy claims.issuedAt claims.expiresAt now := by
  simp only [HintPolicy.claimsValid, Bool.and_eq_true, Bool.or_eq_true, decide_eq_true_eq] at valid
  obtain ⟨⟨⟨⟨⟨⟨_, issued⟩, ordered⟩, _⟩, short⟩, notEarly⟩, recent⟩ := valid
  exact ⟨issued, ordered, short, notEarly, recent⟩

theorem exists_hintClaims (timely : HintTimely policy issuedAt expiresAt now) :
    ∃ claims : IDTokenClaims, claims.issuedAt = issuedAt ∧ claims.expiresAt = expiresAt ∧
      policy.claimsValid claims now := by
  obtain ⟨issued, ordered, short, notEarly, recent⟩ := timely
  refine ⟨⟨policy.issuer, "subject", "client", "client", expiresAt, issuedAt, 1, "", none, none, none,
    none⟩, rfl, rfl, ?_⟩
  have recently : (decide (now ≤ timeAdd (timeUnix expiresAt) policy.clockSkew) ||
      decide (now ≤ timeAdd (timeAdd (timeUnix issuedAt) policy.hintMaxAge) policy.clockSkew)) =
        true := by
    simpa only [Bool.or_eq_true, decide_eq_true_eq] using recent
  simp only [HintPolicy.claimsValid, beq_self_eq_true, decide_eq_true issued, decide_eq_true ordered,
    decide_eq_true short, decide_eq_true notEarly, recently, Bool.true_and, Bool.and_true]
  rfl

theorem timeAdd_now {d : Int} (modern : Modern now) (low : 0 ≤ d) (high : d ≤ minutes 5) :
    timeAdd now d = now + d := by
  obtain ⟨begun, notOver⟩ := modern
  simp only [Time.ofUnix, seconds, minutes] at begun notOver high
  refine timeAdd_eq ?_ ?_
  · simp only [seconds]
    lia
  · simp only [seconds]
    lia

/-- A hint that is not from the future stays in range when its age is added. -/
theorem timeAdd_hintMaxAge (modern : Modern now) (positive : 0 < issuedAt.toInt)
    (notEarly : Time.ofUnix issuedAt.toInt ≤ now + policy.clockSkew) :
    timeAdd (timeAdd (Time.ofUnix issuedAt.toInt) policy.hintMaxAge) policy.clockSkew =
      Time.ofUnix issuedAt.toInt + policy.hintMaxAge + policy.clockSkew := by
  obtain ⟨_, notOver⟩ := modern
  have age := policy.hintMaxAge_bounded
  have skew := policy.clockSkew_bounded
  simp only [Time.ofUnix, seconds, minutes] at notOver age skew notEarly
  have inner : timeAdd (Time.ofUnix issuedAt.toInt) policy.hintMaxAge =
      Time.ofUnix issuedAt.toInt + policy.hintMaxAge := by
    refine timeAdd_eq ?_ ?_
    · simp only [Time.ofUnix, seconds]
      lia
    · simp only [Time.ofUnix, seconds]
      lia
  rw [inner]
  refine timeAdd_eq ?_ ?_
  · simp only [Time.ofUnix, seconds]
    lia
  · simp only [Time.ofUnix, seconds]
    lia

theorem lasts_of_hintTimely (modern : Modern now) (timely : HintTimely policy issuedAt expiresAt now)
    (caught : ¬HintEscapes policy issuedAt expiresAt now) : Lasts issuedAt expiresAt 900 := by
  obtain ⟨issued, ordered, short, notEarly, recent⟩ := timely
  have positive : 0 < issuedAt.toInt := Int64.lt_iff_toInt_lt.mp issued
  have after : issuedAt.toInt < expiresAt.toInt := Int64.lt_iff_toInt_lt.mp ordered
  have skew := policy.clockSkew_bounded
  rw [timeSub_le_iff (by decide) (by decide)] at short
  rw [timeAdd_now modern skew.1 skew.2] at notEarly
  refine ⟨positive, after, ?_⟩
  by_cases outside : 2 ^ 63 ≤ expiresAt.toInt + 62135596800
  · by_cases both : 2 ^ 63 ≤ issuedAt.toInt + 62135596800
    · -- Both times wrap around, and their difference is the lifetime again.
      rw [timeUnix_wraps _ outside, timeUnix_wraps _ both] at short
      simp only [maxIDTokenLifetime, minutes, seconds] at short
      lia
    · have started : timeUnix issuedAt = Time.ofUnix issuedAt.toInt :=
        timeUnix_inRange positive (by lia)
      rw [started] at notEarly recent
      refine absurd ⟨positive, outside, notEarly, ?_⟩ caught
      rcases recent with running | young
      · -- The end has wrapped around to a time before 1970.
        have bound := expiresAt.toInt_lt
        have begun := modern.1
        rw [timeUnix_wraps _ outside, timeAdd_eq (by simp only [seconds]; lia)
          (by simp only [seconds, minutes] at skew ⊢; lia)] at running
        simp only [Time.ofUnix, seconds, minutes] at running begun skew
        lia
      · exact (timeAdd_hintMaxAge modern positive notEarly) ▸ young
  · rw [timeUnix_inRange positive (by lia), timeUnix_inRange (by lia) (by lia)] at short
    simp only [maxIDTokenLifetime, Time.ofUnix, minutes, seconds] at short
    lia

theorem hintTimely_of_escapes (modern : Modern now)
    (escapes : HintEscapes policy issuedAt expiresAt now) :
    HintTimely policy issuedAt expiresAt now ∧ ¬Lasts issuedAt expiresAt 900 := by
  obtain ⟨positive, outside, notEarly, young⟩ := escapes
  have skew := policy.clockSkew_bounded
  have bound := expiresAt.toInt_lt
  have known : issuedAt.toInt + 62135596800 < 253402300800 + 62135596800 + 300 := by
    have notOver := modern.2
    simp only [Time.ofUnix, seconds, minutes] at notEarly notOver skew
    lia
  have started : timeUnix issuedAt = Time.ofUnix issuedAt.toInt :=
    timeUnix_inRange positive (by lia)
  have lasting : ¬Lasts issuedAt expiresAt 900 := by
    rintro ⟨_, _, short⟩
    lia
  refine ⟨⟨Int64.lt_iff_toInt_lt.mpr positive, Int64.lt_iff_toInt_lt.mpr (by lia), ?_, ?_, .inr ?_⟩,
    lasting⟩
  · rw [timeSub_le_iff (by decide) (by decide), timeUnix_wraps _ outside, started]
    simp only [Time.ofUnix, maxIDTokenLifetime, minutes, seconds]
    lia
  · rwa [timeAdd_now modern skew.1 skew.2, started]
  · rwa [started, timeAdd_hintMaxAge modern positive notEarly]

end Hint

/-- The claims the two verifications accept have bounded lifetimes exactly when neither arithmetic
leaves its range on timely claims. -/
theorem lifetimes_bounded_iff (service : Service)
    (configured : 0 ≤ service.clockSkew ∧ service.clockSkew ≤ minutes 2) (policy : HintPolicy)
    (issuedAt expiresAt : Int64) (now : Time) (modern : Modern now) :
    ((∀ claims : AccessTokenClaims, claims.issuedAt = issuedAt → claims.expiresAt = expiresAt →
        service.claimsValid claims now → Lasts issuedAt expiresAt 1800) ∧
      (∀ claims : IDTokenClaims, claims.issuedAt = issuedAt → claims.expiresAt = expiresAt →
        policy.claimsValid claims now → Lasts issuedAt expiresAt 900)) ↔
      ¬AccessEscapes service.clockSkew issuedAt expiresAt now ∧
        ¬HintEscapes policy issuedAt expiresAt now := by
  constructor
  · rintro ⟨access, hint⟩
    constructor
    · intro escapes
      obtain ⟨claims, starts, ends, valid⟩ := exists_accessClaims (accessTimely_of_escapes escapes)
      have short := (access claims starts ends valid).2.2
      have long := escapes.2.1
      lia
    · intro escapes
      obtain ⟨timely, lasting⟩ := hintTimely_of_escapes modern escapes
      obtain ⟨claims, starts, ends, valid⟩ := exists_hintClaims timely
      exact lasting (hint claims starts ends valid)
  · rintro ⟨access, hint⟩
    constructor
    · rintro claims rfl rfl valid
      exact lasts_of_accessTimely configured.2 modern (accessTimely_of_claimsValid valid) access
    · rintro claims rfl rfl valid
      exact lasts_of_hintTimely modern (hintTimely_of_claimsValid valid) hint

namespace Sample

/-- A token service; its JOSE library is not asked. -/
def tokens : Service :=
  { jose := ⟨fun _ => none, fun _ _ => none, fun _ => none⟩, publicKeys := []
    issuer := "https://id.example", userinfoAudience := "https://id.example/userinfo"
    clockSkew := minutes 1 }

def hints : HintPolicy :=
  ⟨"https://id.example", minutes 60, minutes 1, by decide, by decide⟩

/-- The moment of issue, in June 2025. -/
def issued : Int64 := 1750000000

/-- An access token that lasts for 292 years. -/
def access : AccessTokenClaims :=
  ⟨"https://id.example", "subject", "https://id.example/userinfo", "client", "openid", issued,
    issued + 9223372037, "jti_AAAAAAAAAAAAAAAAAAAAAA"⟩

/-- An ID token with the last `int64` as its end. -/
def identity : IDTokenClaims :=
  ⟨"https://id.example", "subject", "client", "client", Int64.maxValue, issued, issued, "", none, none,
    none, none⟩

end Sample

/-- Both verifications accept tokens that last for centuries. -/
theorem lasting_tokens_accepted :
    Modern (Time.ofUnix 1750000000) ∧
      Sample.tokens.claimsValid Sample.access (Time.ofUnix 1750000000) ∧
      Sample.access.expiresAt.toInt - Sample.access.issuedAt.toInt = 9223372037 ∧
      Sample.hints.claimsValid Sample.identity (Time.ofUnix 1750000000) ∧
      Sample.identity.expiresAt.toInt - Sample.identity.issuedAt.toInt = 9223372035104775807 := by
  refine ⟨by simp only [Modern]; decide, by decide +kernel, by decide, by decide +kernel, by decide⟩

/-- The claims of ten minutes do not escape. -/
theorem lifetimes_bounded_ten_minutes :
    (∀ claims : AccessTokenClaims, claims.issuedAt = Sample.issued →
        claims.expiresAt = Sample.issued + 600 →
        Sample.tokens.claimsValid claims (Time.ofUnix 1750000000) →
        Lasts Sample.issued (Sample.issued + 600) 1800) ∧
      (∀ claims : IDTokenClaims, claims.issuedAt = Sample.issued →
        claims.expiresAt = Sample.issued + 600 →
        Sample.hints.claimsValid claims (Time.ofUnix 1750000000) →
        Lasts Sample.issued (Sample.issued + 600) 900) := by
  refine (lifetimes_bounded_iff Sample.tokens (by decide) Sample.hints Sample.issued
    (Sample.issued + 600) (Time.ofUnix 1750000000) (by simp only [Modern]; decide)).mpr ⟨?_, ?_⟩
  · rintro ⟨_, long, _⟩
    revert long
    decide
  · rintro ⟨_, outside, _⟩
    revert outside
    decide

end OneIssuer.Logout
