import OneIssuer.Store.Sessions
import OneIssuer.Token.Mint

/-!
# Identities

How the identity service reads a login identifier: the normal forms of usernames and email addresses,
the record a login starts from, and what the service makes of the answer of Argon2.

Normal forms, case folding, character classes and the address grammar are functions of libraries
(`Unicode`); nothing is assumed about them. Submitted fields are texts, so the checks for broken UTF-8
hold by construction.
-/

set_option autoImplicit false

namespace OneIssuer.Identity

open Store Token

/-! ## Libraries -/

/-- The functions of the Unicode, mail and case-folding libraries. -/
structure Unicode where
  nfc : String → String
  fold : String → String
  toLower : String → String
  isLetter : Char → Bool
  isDigit : Char → Bool
  /-- The address `mail.ParseAddress` finds. -/
  parseAddress : String → Option String

/-- `strings.TrimSpace`. -/
def trimSpace (raw : String) : String :=
  String.ofList ((raw.toList.dropWhile isSpace).reverse.dropWhile isSpace).reverse

/-! ## Normal forms -/

/-- `ValidationError`. -/
structure ValidationError where
  field : String
  code : String
  deriving DecidableEq, Repr

/-- A field as it is displayed and as it is compared. -/
structure Normalized where
  display : String
  normalized : String
  deriving DecidableEq, Repr

/-- A character of a username; the first and the last one are letters or digits. -/
def usernameChar (unicode : Unicode) (atEdge : Bool) (c : Char) : Bool :=
  unicode.isLetter c || unicode.isDigit c || (!atEdge && (c == '.' || c == '_' || c == '-'))

/-- `NormalizeUsername`. -/
def normalizeUsername (unicode : Unicode) (raw : String) : Except ValidationError Normalized :=
  let display := unicode.nfc (trimSpace raw)
  let runes := display.toList
  if runes.length < 3 || runes.length > 64 then .error ⟨"username", "invalid_length"⟩
  else if !(runes.all (usernameChar unicode false) && runes.head?.all (usernameChar unicode true) &&
      runes.getLast?.all (usernameChar unicode true)) then .error ⟨"username", "invalid_format"⟩
  else .ok ⟨display, unicode.fold display⟩

/-- The part of an address before its last `@` and the part after it. -/
def splitAddress (display : String) : Option (String × String) :=
  let backwards := display.toList.reverse
  if backwards.contains '@' then
    some (String.ofList ((backwards.dropWhile (· != '@')).drop 1).reverse,
      String.ofList (backwards.takeWhile (· != '@')).reverse)
  else none

/-- `NormalizeEmail`. -/
def normalizeEmail (unicode : Unicode) (raw : String) : Except ValidationError Normalized :=
  let display := unicode.nfc (trimSpace raw)
  let invalid : Except ValidationError Normalized := .error ⟨"email", "invalid_format"⟩
  if display.utf8ByteSize > 320 then invalid
  else if unicode.parseAddress display != some display then invalid
  else
    match splitAddress display with
    | none => invalid
    | some (localPart, domainPart) =>
      if localPart == "" || domainPart == "" || localPart.toList.contains '@' then invalid
      else
        let domain := unicode.toLower domainPart
        if domain.toList.head? == some '.' || domain.toList.getLast? == some '.' ||
            !domain.toList.contains '.' then invalid
        else .ok ⟨display, unicode.fold localPart ++ "@" ++ domain⟩

/-- `NormalizeLoginIdentifier`. -/
def normalizeLoginIdentifier (unicode : Unicode) (raw : String) : Except ValidationError String :=
  if raw.toList.contains '@' then (normalizeEmail unicode raw).map (·.normalized)
  else (normalizeUsername unicode raw).map (·.normalized)

/-! ## Logins -/

/-- `LoginRecord`. -/
structure LoginRecord where
  user : User
  passwordHash : String
  deriving DecidableEq, Repr

/-- The users an identifier can stand for, with their passwords. -/
def credentialsFor (db : Db) (identifier : String) : List LoginRecord :=
  db.users.flatMap fun user =>
    if user.usernameNormalized == identifier || user.emailNormalized == identifier then
      (db.credentials.filter (·.userID == user.id)).map fun row => ⟨user, row.passwordHash⟩
    else []

/-- `FindCredentialForLogin`: a username goes before an email address. -/
def findCredentialForLogin (db : Db) (identifier : String) :
    Option LoginRecord :=
  ((credentialsFor db identifier).filter (·.user.usernameNormalized == identifier) ++
    (credentialsFor db identifier).filter (·.user.usernameNormalized != identifier)).head?

/-- What Argon2 says about a password. -/
inductive PasswordCheck where
  | busy
  | failed
  | mismatch
  | matched (needsRehash : Bool)
  deriving DecidableEq, Repr

/-- Why a login is refused by its credentials. -/
inductive LoginRefusal where
  | busy
  | failed
  | invalidCredentials
  | disabled
  deriving DecidableEq, Repr

/-- `VerifyLogin` up to the rehash; the answer says whether one is needed. -/
def verifyLogin (check : PasswordCheck) (record : Option LoginRecord) : Except LoginRefusal Bool :=
  match check, record with
  | .busy, _ => .error .busy
  | .failed, _ => .error .failed
  | .matched needsRehash, some found =>
    if found.user.status != .active then .error .disabled else .ok needsRehash
  | _, _ => .error .invalidCredentials

end OneIssuer.Identity
