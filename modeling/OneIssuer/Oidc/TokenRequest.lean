import OneIssuer.Oidc.Grammar
import OneIssuer.Password
import OneIssuer.Token.Grammars
import OneIssuer.Wire.Url

/-!
# Requests of the token endpoints

The parsers of token, revocation and introspection requests: the form, the Authorization header and
the client that authenticates, over one snapshot of the registry. `endpoints_authenticate` says whom
the three endpoints accept: a confidential client only by one Basic header with an unrevoked secret of
its own and without a `client_id` in the form, a public client only by its name and without a header,
and at the introspection endpoint none.

The proof goes through the parsers in their order, and each lemma says what is known once a parser has
succeeded.

**What it does not establish.** The source reads the client and then its secrets; here both come from
one snapshot, so a change of the registry between the two reads is outside. Codes and statuses of a
refusal belong to an error template of a library, which is named only.
-/

set_option autoImplicit false

namespace OneIssuer.Oidc

open Wire Token Identity

/-! ## Errors and results -/

/-- The errors of the OAuth library that `tokenError` is given. -/
inductive TokenErrorTemplate where
  | errInvalidRequest
  | errUnsupportedGrantType
  | errInvalidClient
  | errInvalidGrant
  | errInvalidScope
  deriving DecidableEq, Repr

/-- `TokenError`; its code and its status are those of the template. -/
structure TokenError where
  template : TokenErrorTemplate
  basicChallenge : Bool
  deriving DecidableEq, Repr

/-- `tokenError`. -/
def tokenError (template : TokenErrorTemplate) (basic : Bool) : TokenError := ⟨template, basic⟩

/-- What a token request asks for. -/
structure TokenGrant where
  grantType : String
  codeHash : Bytes
  refreshTokenHash : Bytes
  redirectURI : String
  codeVerifier : String
  scopes : Option (List String)

/-- `VerifiedTokenRequest`. -/
structure VerifiedTokenRequest extends TokenGrant where
  client : Client

/-- `VerifiedRevocationRequest` and `VerifiedIntrospectionRequest`. -/
structure VerifiedLifecycleRequest where
  client : Client
  token : String
  hint : String

/-! ## Clients -/

/-- `TokenClientResolver`. -/
structure TokenClientResolver where
  resolveActive : String → Option Client
  validateSecret : (clientID clearSecret : String) → Option Client

/-- `ValidateSecret`; every failure is `ErrNotFound`. The client and its secrets are read from one state,
which the source reads one after the other. -/
def validateSecret (sha : Sha256) (db : Db) (clientID clearSecret : String) : Option Client :=
  if !validSecret clearSecret then none
  else
    match db.clients.find? (·.clientID == clientID) with
    | none => none
    | some row =>
      if row.status != .active || row.clientType != .typeConfidential then none
      else if db.clientSecrets.any fun secret => secret.clientID == row.id && secret.revokedAt.isNone &&
          secret.secretHash.length == sha256Size && secret.secretHash == hashSecret sha clearSecret then
        some (db.clientOf row)
      else none

/-- The client service as a resolver. -/
def tokenRegistry (sha : Sha256) (db : Db) : TokenClientResolver where
  resolveActive := db.resolveActive
  validateSecret := validateSecret sha db

/-! ## The Authorization header -/

def maxBasicAuthorizationBytes : Nat := 256

/-- `base64.StdEncoding.Strict().DecodeString` of a text without line ends. -/
def decodeStd (text : Octets) : Option Bytes :=
  let body := (text.reverse.dropWhile (· == 61)).reverse
  if text.length % 4 == 0 && text.length ≤ body.length + 2 then decodeRawStd body else none

/-- `strings.EqualFold` with `Basic`, whose letters fold like those of `localhost`. -/
def isBasic (scheme : Octets) : Bool :=
  (text? scheme).any fun text => text.toList.map foldCase == "basic".toList

/-- `parseStrictBasic`; `hasASCIIControl` is `containsCTLByte`. -/
def parseStrictBasic (value : Octets) : Option (String × String) := do
  guard (value.length ≤ maxBasicAuthorizationBytes && (text? value).isSome &&
    !containsCTLByte value && !value.contains 44)
  let (scheme, encoded) ← cut 32 value
  guard (isBasic scheme && !encoded.isEmpty && !encoded.contains 32)
  let decoded ← decodeStd encoded
  guard ((text? decoded).isSome && !containsCTLByte decoded && decoded.count 58 == 1)
  let (encodedID, encodedSecret) ← cut 58 decoded
  let clientID ← queryUnescape encodedID
  let secret ← queryUnescape encodedSecret
  guard (!clientID.isEmpty && !secret.isEmpty && !containsCTLByte clientID && !containsCTLByte secret)
  return (← text? clientID, ← text? secret)

/-- `authenticateTokenClient`: the client, or no client, and whether the answer is a challenge. -/
def authenticateTokenClient (clients : TokenClientResolver) (form : Values) (header : List Octets) :
    Except Bool (Client × Bool) :=
  match header with
  | _ :: _ :: _ => .error true
  | [value] => do
    ensure (form.all "client_id").isEmpty true
    let (clientID, secret) ← orError (parseStrictBasic value) true
    let client ← orError (clients.validateSecret clientID secret) true
    ensure (client.type == .typeConfidential && client.tokenEndpointAuthMethod == .clientSecretBasic)
      true
    return (client, true)
  | [] => do
    ensure ((form.all "client_id").length == 1 && form.get "client_id" != "") false
    let client ← orError (clients.resolveActive (form.get "client_id")) false
    ensure (client.type == .typePublic && client.tokenEndpointAuthMethod == .none)
      (client.type == .typeConfidential)
    return (client, false)

/-! ## Requests -/

/-- `validTokenFormUTF8`, with the texts it validated. -/
def validTokenFormUTF8 (form : List (Octets × Octets)) : Option Values := validQueryUTF8 form

/-- `onlyTokenParameters`. -/
def onlyTokenParameters (form : Values) (allowed : List String) : Bool :=
  form.map (·.1) |>.all fun name => allowed.contains name

/-- `parseRefreshScope`. -/
def parseRefreshScope (raw : String) : Option (List String) := do
  let parts ← splitStrictSpaceList raw
  (Consent.canonicalScopes parts).filter fun canonical => canonical.length == parts.length

/-- The authentication of a form without `client_secret`. -/
def authenticate (clients : TokenClientResolver) (form : Values) (header : List Octets)
    (secretChallenge : Bool) : Except TokenError (Client × Bool) := do
  ensure (form.all "client_secret").isEmpty (tokenError .errInvalidClient secretChallenge)
  (authenticateTokenClient clients form header).mapError (tokenError .errInvalidClient)

/-- The parameters of a code grant. -/
def parseCodeGrant (sha : Sha256) (form : Values) : Except TokenError TokenGrant := do
  ensure (onlyTokenParameters form ["grant_type", "code", "redirect_uri", "code_verifier", "client_id",
    "scope"] && form.get "code" != "" && form.get "redirect_uri" != "" && form.get "code_verifier" != "")
    (tokenError .errInvalidRequest false)
  let codeHash ← orError (digestPresentedCode sha (form.get "code")) (tokenError .errInvalidGrant false)
  ensure (validateVerifier (form.get "code_verifier")) (tokenError .errInvalidGrant false)
  return {
    grantType := "authorization_code", codeHash, refreshTokenHash := []
    redirectURI := form.get "redirect_uri", codeVerifier := form.get "code_verifier", scopes := none }

/-- The parameters of a refresh grant. -/
def parseRefreshGrant (sha : Sha256) (form : Values) : Except TokenError TokenGrant := do
  ensure (onlyTokenParameters form ["grant_type", "refresh_token", "client_id", "scope"] &&
    form.get "refresh_token" != "") (tokenError .errInvalidRequest false)
  let refreshTokenHash ← orError (digestPresentedRefreshToken sha (form.get "refresh_token"))
    (tokenError .errInvalidGrant false)
  let scopes ← if (form.all "scope").length == 1 then
      orError ((parseRefreshScope (form.get "scope")).map some) (tokenError .errInvalidScope false)
    else pure none
  return {
    grantType := "refresh_token", codeHash := [], refreshTokenHash, redirectURI := ""
    codeVerifier := "", scopes }

def parseGrant (sha : Sha256) (form : Values) : Except TokenError TokenGrant :=
  if form.get "grant_type" == "authorization_code" then parseCodeGrant sha form
  else parseRefreshGrant sha form

/-- `ParseTokenRequest`. A registered client may use both grants. -/
def parseTokenRequest (sha : Sha256) (clients : TokenClientResolver) (form : List (Octets × Octets))
    (header : List Octets) : Except TokenError VerifiedTokenRequest := do
  let form ← orError (validTokenFormUTF8 form) (tokenError .errInvalidRequest false)
  ensure ((form.all "grant_type").length == 1 && form.get "grant_type" != "")
    (tokenError .errInvalidRequest false)
  ensure (["client_id", "client_secret", "scope", "code", "redirect_uri", "code_verifier",
    "refresh_token"].all fun name => (form.all name).length ≤ 1) (tokenError .errInvalidRequest false)
  ensure (["authorization_code", "refresh_token"].contains (form.get "grant_type"))
    (tokenError .errUnsupportedGrantType false)
  let (client, _) ← authenticate clients form header (!header.isEmpty)
  let grant ← parseGrant sha form
  return { grant with client }

/-- `validLifecycleForm`. -/
def validLifecycleForm (form : Values) : Bool :=
  (form.all "token").length == 1 && form.get "token" != "" &&
    (form.all "token_type_hint").length ≤ 1 && (form.all "client_id").length ≤ 1 &&
    (form.all "client_secret").length ≤ 1 &&
    onlyTokenParameters form ["token", "token_type_hint", "client_id", "client_secret"]

/-- `ParseRevocationRequest`. -/
def parseRevocationRequest (clients : TokenClientResolver) (form : List (Octets × Octets))
    (header : List Octets) : Except TokenError VerifiedLifecycleRequest := do
  let form ← orError ((validTokenFormUTF8 form).filter validLifecycleForm)
    (tokenError .errInvalidRequest false)
  let (client, _) ← authenticate clients form header (!header.isEmpty)
  return ⟨client, form.get "token", form.get "token_type_hint"⟩

/-- `ParseIntrospectionRequest`. Whoever is no confidential client is challenged. -/
def parseIntrospectionRequest (clients : TokenClientResolver) (form : List (Octets × Octets))
    (header : List Octets) : Except TokenError VerifiedLifecycleRequest := do
  let form ← orError ((validTokenFormUTF8 form).filter validLifecycleForm)
    (tokenError .errInvalidRequest false)
  let (client, _) ← (authenticate clients form header true).mapError fun _ =>
    tokenError .errInvalidClient true
  ensure (client.type == .typeConfidential && client.tokenEndpointAuthMethod == .clientSecretBasic)
    (tokenError .errInvalidClient true)
  return ⟨client, form.get "token", form.get "token_type_hint"⟩

/-! ## Who is accepted -/

/-- The client proves to be itself, by a secret that is stored for it or, when it has none, by its
name. -/
inductive Authenticated (sha : Sha256) (db : Db) (form : Values) (header : List Octets) (client : Client) :
    Prop where
  | secret {value : Octets} {clear : String} {row : ClientRow} {secret : ClientSecret}
      (isHeader : header = [value]) (unnamed : form.all "client_id" = [])
      (read : parseStrictBasic value = some (row.clientID, clear)) (stored : row ∈ db.clients)
      (isClient : client = db.clientOf row) (active : row.status = .active)
      (confidential : row.clientType = .typeConfidential) (inSecrets : secret ∈ db.clientSecrets)
      (own : secret.clientID = row.id) (unrevoked : secret.revokedAt = none)
      (isHash : secret.secretHash = hashSecret sha clear)
  | name {row : ClientRow} (isHeader : header = []) (named : form.all "client_id" = [row.clientID])
      (stored : row ∈ db.clients) (isClient : client = db.clientOf row) (active : row.status = .active)
      (isPublic : row.clientType = .typePublic)

section Accepted

variable {sha : Sha256} {db : Db} {form : Values} {header : List Octets} {client : Client}

theorem validateSecret_some {clientID clear : String}
    (validated : validateSecret sha db clientID clear = some client) :
    ∃ row ∈ db.clients, row.clientID = clientID ∧ client = db.clientOf row ∧ row.status = .active ∧
      row.clientType = .typeConfidential ∧ ∃ secret ∈ db.clientSecrets, secret.clientID = row.id ∧
        secret.revokedAt = none ∧ secret.secretHash = hashSecret sha clear := by
  simp only [validateSecret, Option.ite_none_left_eq_some] at validated
  obtain ⟨-, validated⟩ := validated
  split at validated
  · cases validated
  · rename_i row found
    simp only [Option.ite_none_left_eq_some, Option.ite_none_right_eq_some, Option.some.injEq,
      Bool.or_eq_true, bne_iff_ne, not_or, not_not, List.any_eq_true, Bool.and_eq_true, beq_iff_eq,
      Option.isNone_iff_eq_none, ne_eq] at validated
    obtain ⟨⟨active, confidential⟩, ⟨secret, inSecrets, ⟨⟨own, unrevoked⟩, -⟩, isHash⟩, rfl⟩ := validated
    exact ⟨row, List.mem_of_find?_eq_some found, by simpa using List.find?_some found, rfl, active,
      confidential, secret, inSecrets, own, unrevoked, isHash⟩

theorem authenticateTokenClient_ok {challenged : Bool}
    (accepted : authenticateTokenClient (tokenRegistry sha db) form header = .ok (client, challenged)) :
    Authenticated sha db form header client := by
  unfold authenticateTokenClient at accepted
  split at accepted
  · cases accepted
  · simp only [Relational.bind_ok, ensure_ok, orError_ok, List.isEmpty_iff, pure, Except.pure,
      Except.ok.injEq, Prod.mk.injEq, Prod.exists] at accepted
    obtain ⟨_, unnamed, clientID, clear, read, found, validated, _, -, rfl, -⟩ := accepted
    obtain ⟨row, stored, rfl, isClient, active, confidential, secret, inSecrets, own, unrevoked,
      isHash⟩ := validateSecret_some validated
    exact .secret rfl unnamed read stored isClient active confidential inSecrets own unrevoked isHash
  · simp only [Relational.bind_ok, ensure_ok, orError_ok, Bool.and_eq_true, beq_iff_eq, pure,
      Except.pure, Except.ok.injEq, Prod.mk.injEq] at accepted
    obtain ⟨_, ⟨single, -⟩, found, resolved, _, ⟨isPublic, -⟩, rfl, -⟩ := accepted
    obtain ⟨row, stored, isRow, rfl, active⟩ := Db.resolveActive_some resolved
    refine .name rfl ?_ stored rfl active isPublic
    rw [isRow]
    exact Values.all_of_length single

/-- The form is text without a `client_secret`, and its client is authenticated. -/
def Accepts (sha : Sha256) (db : Db) (form : List (Octets × Octets)) (header : List Octets)
    (client : Client) : Prop :=
  ∃ values, validTokenFormUTF8 form = some values ∧ values.all "client_secret" = [] ∧
    Authenticated sha db values header client

theorem mapError_ok {ε δ α : Type} {outcome : Except ε α} {f : ε → δ} {value : α} :
    outcome.mapError f = .ok value ↔ outcome = .ok value := by
  cases outcome <;> simp [Except.mapError]

theorem authenticate_ok {secretChallenge challenged : Bool}
    (accepted : authenticate (tokenRegistry sha db) form header secretChallenge =
      .ok (client, challenged)) :
    form.all "client_secret" = [] ∧ Authenticated sha db form header client := by
  simp only [authenticate, Relational.bind_ok, ensure_ok, List.isEmpty_iff, mapError_ok] at accepted
  obtain ⟨_, secretless, accepted⟩ := accepted
  exact ⟨secretless, authenticateTokenClient_ok accepted⟩

end Accepted

/-- Whatever the registry holds, the three endpoints accept requests of authenticated clients only, and
introspection only those with a secret. -/
theorem endpoints_authenticate (sha : Sha256) (db : Db) (form : List (Octets × Octets))
    (header : List Octets) :
    (∀ request, parseTokenRequest sha (tokenRegistry sha db) form header = .ok request →
      Accepts sha db form header request.client) ∧
    (∀ request, parseRevocationRequest (tokenRegistry sha db) form header = .ok request →
      Accepts sha db form header request.client) ∧
    ∀ request, parseIntrospectionRequest (tokenRegistry sha db) form header = .ok request →
      Accepts sha db form header request.client ∧ header ≠ [] := by
  refine ⟨?_, ?_, ?_⟩
  · intro request parsed
    simp only [parseTokenRequest, Relational.bind_ok, orError_ok, ensure_ok, Prod.exists, pure,
      Except.pure, Except.ok.injEq] at parsed
    obtain ⟨values, isText, _, -, _, -, _, -, client, _, accepted, _, -, rfl⟩ := parsed
    exact ⟨values, isText, authenticate_ok accepted⟩
  · intro request parsed
    simp only [parseRevocationRequest, Relational.bind_ok, orError_ok, Option.filter_eq_some_iff,
      Prod.exists, pure, Except.pure, Except.ok.injEq] at parsed
    obtain ⟨values, ⟨isText, -⟩, client, _, accepted, rfl⟩ := parsed
    exact ⟨values, isText, authenticate_ok accepted⟩
  · intro request parsed
    simp only [parseIntrospectionRequest, Relational.bind_ok, orError_ok, ensure_ok, mapError_ok,
      Option.filter_eq_some_iff, Prod.exists, Bool.and_eq_true, beq_iff_eq, pure, Except.pure,
      Except.ok.injEq] at parsed
    obtain ⟨values, ⟨isText, -⟩, client, _, accepted, _, ⟨confidential, -⟩, rfl⟩ := parsed
    have authenticated := authenticate_ok accepted
    refine ⟨⟨values, isText, authenticated⟩, ?_⟩
    intro headerless
    cases authenticated.2 with
    | secret isHeader => cases isHeader.symm.trans headerless
    | name _ _ _ isClient _ isPublic =>
      subst isClient
      cases isPublic.symm.trans confidential

namespace Sample

open OneIssuer.Sample (client event sha start)

/-- The secret of 32 zeros. -/
def clearSecret : String := String.ofList ("ois_sec_v1_".toList ++ List.replicate 43 'A')

/-- The client is registered with its secret. -/
def secretStored : Db :=
  (Entry.calm sha (.createClient client (some ⟨20, client.id, hashSecret sha clearSecret, start⟩) (event 1))
    (Db.empty .utc)).after

/-- The identifier and the secret of the client, as a Basic header. -/
def header : String :=
  "Basic b2lzX2NsaV9BQUFBQUFBQUFBQUFBQUFBQUFBQUFBQUFBQUFBQUFBQTpvaXNfc2Vj" ++
    "X3YxX0FBQUFBQUFBQUFBQUFBQUFBQUFBQUFBQUFBQUFBQUFBQUFBQUFBQUFBQUE="

def form : List (Octets × Octets) := [(octets "token", octets "t")]

end Sample

/-- The client of the sample is accepted at the introspection endpoint, with its stored secret. -/
theorem endpoints_authenticate_sample :
    ∃ request, parseIntrospectionRequest (tokenRegistry OneIssuer.Sample.sha Sample.secretStored)
        Sample.form [octets Sample.header] = .ok request ∧
      Accepts OneIssuer.Sample.sha Sample.secretStored Sample.form [octets Sample.header] request.client := by
  have parsed : (parseIntrospectionRequest (tokenRegistry OneIssuer.Sample.sha Sample.secretStored)
      Sample.form [octets Sample.header]).isOk = true := by decide +kernel
  cases answered : parseIntrospectionRequest (tokenRegistry OneIssuer.Sample.sha Sample.secretStored)
      Sample.form [octets Sample.header] with
  | error failure =>
    rw [answered] at parsed
    cases parsed
  | ok request =>
    exact ⟨request, rfl, ((endpoints_authenticate OneIssuer.Sample.sha Sample.secretStored Sample.form
      [octets Sample.header]).2.2 request answered).1⟩

end OneIssuer.Oidc
