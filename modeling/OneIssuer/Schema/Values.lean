import Mathlib.Data.List.Basic

/-!
# Column values

The values the tables and the store inputs are built from: identifiers, digests, instants and the
small enumerations of the schema. A Go `time.Time` is an integer number of nanoseconds, and
`timestamp` is what PostgreSQL keeps of it, whole microseconds.

Adding whole days to a `timestamptz` depends on the time zone of the database session, so that one
operation is a parameter (`Zone`); every other interval of the schema is an exact duration.
-/

set_option autoImplicit false

namespace OneIssuer

/-! ## Identifiers and digests -/

/-- A `uuid` column or `uuid.UUID` value, read as a number. -/
abbrev Uuid := Nat

/-- `uuid.Nil`. -/
def Uuid.nil : Uuid := 0

/-- A `bytea` column or `[]byte` value. -/
abbrev Bytes := List UInt8

/-- `sha256.Size`. -/
def sha256Size : Nat := 32

/-! ## Instants -/

/-- Nanoseconds since Go's zero time, in UTC. -/
abbrev Time := Int

/-- `time.Time.IsZero`. -/
def Time.isZero (t : Time) : Bool := t == 0

/-- `n` microseconds as a duration. -/
def microseconds (n : Int) : Int := n * 1000

/-- `n` seconds as a duration. -/
def seconds (n : Int) : Int := n * 1000000000

/-- `n` minutes as a duration. -/
def minutes (n : Int) : Int := seconds (n * 60)

/-- `n` hours as a duration. -/
def hours (n : Int) : Int := minutes (n * 60)

/-- `time.Time.Unix`: whole seconds since 1970. -/
def Time.unix (t : Time) : Int := t / 1000000000 - 62135596800

/-- `time.Unix(value, 0)`. -/
def Time.ofUnix (value : Int) : Time := seconds (value + 62135596800)

/-- What a `timestamptz` column keeps of an instant. -/
def timestamp (t : Time) : Time := t - t % microseconds 1

theorem timestamp_le (t : Time) : timestamp t ≤ t := by
  simp only [timestamp, microseconds]
  lia

theorem timestamp_mono {s t : Time} (before : s ≤ t) : timestamp s ≤ timestamp t := by
  simp only [timestamp, microseconds]
  lia

@[simp] theorem timestamp_timestamp (t : Time) : timestamp (timestamp t) = timestamp t := by
  simp only [timestamp, microseconds]
  lia

/-- Durations of at least a microsecond are visible in the columns. -/
theorem timestamp_lt_add {t : Time} {ttl : Int} (long : microseconds 1 ≤ ttl) :
    timestamp t < timestamp (t + ttl) := by
  simp only [timestamp, microseconds] at *
  lia

/-- Whole microseconds pass through the columns. -/
theorem timestamp_add_le {t : Time} {ttl n : Int} (bound : ttl ≤ microseconds n) :
    timestamp (t + ttl) ≤ timestamp t + microseconds n := by
  simp only [timestamp, microseconds] at *
  lia

theorem timestamp_lt_of_whole {t u : Time} (before : t < u) (whole : timestamp u = u) :
    timestamp t < timestamp u := by
  rw [whole]
  exact Int.lt_of_le_of_lt (timestamp_le t) before

/-- The session's `TimeZone`, as far as the schema depends on it: `t + interval 'n days'`. -/
structure Zone where
  plusDays : Time → Nat → Time

/-- A session in UTC, where a day is 24 hours. -/
def Zone.utc : Zone := ⟨fun t n => t + hours (24 * n)⟩

/-! ## Enumerations -/

/-- `users.status` and `oidc_clients.status`. -/
inductive Status where
  | active
  | disabled
  deriving DecidableEq, Repr

/-- `users.role`. -/
inductive Role where
  | user
  | admin
  deriving DecidableEq, Repr

/-- `oidc_clients.client_type`. -/
inductive ClientType where
  | typePublic
  | typeConfidential
  deriving DecidableEq, Repr

/-- `oidc_clients.token_endpoint_auth_method`. -/
inductive AuthMethod where
  | none
  | clientSecretBasic
  deriving DecidableEq, Repr

/-- `access_tokens.issuance_source`. -/
inductive IssuanceSource where
  | authorizationCode
  | refreshToken
  deriving DecidableEq, Repr

/-- `auth_transactions.transaction_kind`. -/
inductive TransactionKind where
  | kindLocal
  | kindAuthorization
  deriving DecidableEq, Repr

/-- `logout_transactions.stage`. -/
inductive LogoutStage where
  | preConfirm
  | boundConfirmable
  | confirmed
  | canceled
  deriving DecidableEq, Repr

/-- The texts of the three `revoke_reason` columns; each table admits some of them. -/
inductive RevokeReason where
  | logout
  | user
  | others
  | admin
  | userDisabled
  | roleChanged
  | rotation
  | expired
  | accountSwitch
  | reuse
  | clientRevocation
  | familyRevoked
  | grantRevoked
  | sessionRevoked
  | clientDisabled
  | offlineScopeRemoved
  deriving DecidableEq, Repr

/-- `auth_transactions.failure_reason`. -/
inductive FailureReason where
  | expired
  | consumed
  | invalid
  | clientDisabled
  | registrationDisabled
  | canceled
  | loginRequired
  | consentRequired
  | interactionRequired
  | accessDenied
  | serverError
  deriving DecidableEq, Repr

end OneIssuer
