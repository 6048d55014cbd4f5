import OneIssuer.Store.Steps
import OneIssuer.Token.Service

/-!
# Client registry

How the client service looks a client up for the authorization endpoint, its policy for redirect URIs
and the digest of a client secret. A lookup reads one snapshot, so it is a function of a state.

`url.Parse` and `net.ParseIP` are outside the repository. `URLParser` holds what the policy asks of
them, and nothing is assumed about it.
-/

set_option autoImplicit false

namespace OneIssuer

open Token

/-! ## URIs -/

/-- The parts of a `url.URL` that the policies read. -/
structure NetURL where
  scheme : String
  host : String
  hostname : String
  hasUser : Bool
  fragment : String
  opaquePart : String
  deriving DecidableEq, Repr

/-- `url.Parse`, and whether `net.ParseIP` reads a loopback address. -/
structure URLParser where
  parse : String → Option NetURL
  loopback : String → Bool

/-- The simple case folding of the letters of `localhost`. -/
def foldCase (c : Char) : Char := if c == 'ſ' then 's' else c.toLower

/-- `validateURI` returns no error. -/
def validateURI (urls : URLParser) (allowLoopback : Bool) (raw : String) : Bool :=
  if raw == "" || raw.utf8ByteSize > 2048 || !isTrimmed raw || raw.toList.contains '*' ||
      raw.toList.any fun c => c == '\r' || c == '\n' || c == '\t' then false
  else
    match urls.parse raw with
    | none => false
    | some parsed =>
      if parsed.scheme == "" || parsed.host == "" || parsed.hasUser || parsed.fragment != "" ||
          parsed.opaquePart != "" then false
      else if parsed.scheme == "https" then true
      else if parsed.scheme != "http" || !allowLoopback then false
      else parsed.hostname.toList.map foldCase == "localhost".toList || urls.loopback parsed.hostname

/-! ## Secrets -/

/-- `HashSecret`. -/
def hashSecret (sha : Sha256) (clearSecret : String) : Bytes :=
  sha.sum ("oneissuer:client-secret:v1:" ++ clearSecret)

/-- `validSecret`. -/
def validSecret (clearSecret : String) : Bool :=
  "ois_sec_v1_".toList.isPrefixOf clearSecret.toList &&
    decodedLength (clearSecret.toList.drop 11) == some 32

/-! ## Lookups -/

/-- `validClientID`. -/
def validClientID (value : String) : Bool :=
  "ois_cli_".toList.isPrefixOf value.toList && isTrimmed value &&
    decodedLength (value.toList.drop 8) == some 24

/-- `activeClientRecord`. -/
def activeClientRecord (value : Client) : Bool :=
  value.id != Uuid.nil && value.status == .active &&
    validAuthenticationProfile value.type value.tokenEndpointAuthMethod

/-- `GetClientByPublicID`. -/
def Db.getClientByPublicID (db : Db) (publicID : String) : Option Client :=
  (db.clients.find? (·.clientID == publicID)).map db.clientOf

/-- `ResolveActive`; every failure is `ErrNotFound`. -/
def Db.resolveActive (db : Db) (publicID : String) : Option Client :=
  if !validClientID publicID then none
  else (db.getClientByPublicID publicID).filter activeClientRecord

/-- `RedirectURIMatches`. -/
def redirectURIMatches (urls : URLParser) (allowLoopback : Bool) (client : Client)
    (candidate : String) : Bool :=
  validateURI urls allowLoopback candidate && client.redirectURIs.contains candidate

/-- A resolved client is a stored one with this identifier, and active. -/
theorem Db.resolveActive_some {db : Db} {publicID : String} {client : Client}
    (resolved : db.resolveActive publicID = some client) :
    ∃ row ∈ db.clients, row.clientID = publicID ∧ client = db.clientOf row ∧
      client.status = .active := by
  rw [Db.resolveActive] at resolved
  split at resolved
  · cases resolved
  · obtain ⟨found, isActive⟩ := Option.filter_eq_some_iff.mp resolved
    obtain ⟨row, isRow, rfl⟩ := Option.map_eq_some_iff.mp found
    refine ⟨row, List.mem_of_find?_eq_some isRow, by simpa using List.find?_some isRow, rfl, ?_⟩
    simp only [activeClientRecord, Bool.and_eq_true, beq_iff_eq] at isActive
    exact isActive.1.2

end OneIssuer
