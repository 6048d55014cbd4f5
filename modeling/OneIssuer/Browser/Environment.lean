import OneIssuer.Browser.Services
import OneIssuer.Runs

/-!
# What a handler hears

The answers that a handler gets from everything but the database: the random source and Argon2, for
runs that are evaluated.
-/

set_option autoImplicit false

namespace OneIssuer.Browser

open Relational Store Token Identity

/-- What the random source and Argon2 answer; random values depend on how many effects were performed
before. -/
structure Environment where
  bytes : Nat → RandomBytes 32
  uuid : Nat → RandomUuid
  check : PasswordCheck
  hash : Except HashFailure String

namespace Sample

open OneIssuer.Sample (passwordHash)

/-- A toy digest: the codes of the last two characters. -/
def sha : Sha256 where
  sum text := List.replicate 30 0 ++
    [UInt8.ofNat (text.toList.dropLast.getLastD 'a').toNat,
      UInt8.ofNat (text.toList.getLastD 'a').toNat]
  length_sum _ := rfl

def unicode : Identity.Unicode where
  nfc := id
  fold := id
  toLower := id
  isLetter := Char.isAlpha
  isDigit := Char.isDigit
  parseAddress := some

def app : Application where
  sha := sha
  unicode := unicode
  sessionTTL := hours 8
  idleTimeout := hours 1
  csrfTTL := minutes 10
  sessionBounds := by decide

def bytes (n : Nat) : RandomBytes 32 := ⟨List.replicate 31 0 ++ [UInt8.ofNat n], rfl⟩

/-- The random source counts, and every password is right. -/
def environment : Environment where
  bytes := bytes
  uuid n := ⟨n + 100, Nat.succ_ne_zero _⟩
  check := .matched false
  hash := .ok passwordHash

/-- The token of the `n`-th effect. -/
def token (mark : String) (n : Nat) : String := newSessionToken mark (bytes n)

end Sample

end OneIssuer.Browser
