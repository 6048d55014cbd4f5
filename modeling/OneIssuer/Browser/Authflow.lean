import OneIssuer.Oidc.Grammar
import OneIssuer.Token.Mint

/-!
# Browser transactions

The authflow service: how it validates the context of a verified authorization request, and the
transaction and the audit event it hands to the store. `mapAuthTransaction` reads a stored row back.

A request that the parser accepts passes all the validators behind it: `createVerified`, the CHECK
constraints of the row, and the comparison under the lock when a code is issued.

**What it does not establish.** That the transaction is stored: a statement or the commit may fail.
-/

set_option autoImplicit false

namespace OneIssuer.Authflow

open Wire Token Oidc Store
open OneIssuer.Consent (supported supportedScopes sortStrings contains)

/-! ## The service -/

/-- `authflow.Service`, as `NewService` accepts it. -/
structure Service where
  ttl : Int
  positive : 0 < ttl
  bounded : ttl ≤ hours 1

/-- `VerifiedInput`. -/
structure VerifiedInput where
  clientID : Uuid
  redirectURI : String
  scopes : List String
  pkceChallenge : String
  state : String
  nonce : String
  promptCreate : Bool
  responseType : String
  responseMode : String
  prompts : List String
  maxAgeSeconds : Option Nat
  deriving DecidableEq, Repr

/-- The input `handleAuthorize` builds from a parsed request. -/
def verifiedInput (verified : VerifiedAuthorizationRequest) : VerifiedInput :=
  { clientID := verified.client.id, redirectURI := verified.redirectURI, scopes := verified.scopes
    pkceChallenge := verified.pkceChallenge, state := verified.state, nonce := verified.nonce
    promptCreate := contains verified.prompts "create", responseType := verified.responseType
    responseMode := verified.responseMode, prompts := verified.prompts
    maxAgeSeconds := verified.maxAge }

/-- The random values of a new transaction. -/
structure Entropy where
  token : RandomBytes 32
  id : RandomUuid
  eventID : RandomUuid

/-- Why a transaction is not created before the store is asked. -/
inductive Error where
  | invalid
  | invalidEvent
  deriving DecidableEq, Repr

/-- What `create` hands to the store and returns. -/
structure Created where
  token : String
  transaction : Transaction
  event : Audit.ServiceEvent

/-! ## Validation -/

/-- `validAbsoluteURI`. -/
def validAbsoluteURI (urls : URLParser) (raw : String) : Bool :=
  match urls.parse raw with
  | none => false
  | some parsed => parsed.scheme != "" && parsed.host != "" && parsed.fragment == "" && !parsed.hasUser

/-- `canonicalStrings`. -/
def canonicalStrings (values : List String) : List String :=
  (sortStrings values).foldl
    (fun output value =>
      if value == "" || output.getLast? == some value then output else output ++ [value]) []

/-- `validOIDCScopes`. -/
def validOIDCScopes (values : List String) : Bool :=
  contains values "openid" && values.all supported

/-- `validPrompts`. -/
def validPrompts (values : List String) : Bool :=
  canonicalStrings values == values &&
    (values.all fun value => ["consent", "create", "login", "none"].contains value) &&
    (!contains values "none" || values.length == 1) &&
    (!contains values "create" || !contains values "login")

/-- The checks of `CreateVerified` on its input after scopes and prompts are canonical. -/
def validInput (urls : URLParser) (input : VerifiedInput) : Bool :=
  input.clientID != Uuid.nil && validAbsoluteURI urls input.redirectURI &&
    input.responseType == "code" && input.responseMode == "query" &&
    !input.scopes.isEmpty && input.scopes.length ≤ 4 && validOIDCScopes input.scopes &&
    validS256Challenge input.pkceChallenge &&
    input.state.utf8ByteSize ≤ 1024 && input.nonce.utf8ByteSize ≤ 1024 &&
    validPrompts input.prompts && input.promptCreate == contains input.prompts "create" &&
    input.maxAgeSeconds.all (· ≤ 30 * 24 * 60 * 60)

/-- `newToken`. -/
def newToken (random : RandomBytes 32) : String := "t1_" ++ String.ofList (encodeRawURL random.1)

/-- `HashToken`. -/
def hashToken (sha : Sha256) (token : String) : Bytes :=
  sha.sum ("oneissuer:auth-transaction:v1:" ++ token)

/-- The event of a new transaction. -/
def createdEvent (entropy : Entropy) (requestID : Audit.RequestID) (now : Time) : Audit.Event :=
  { id := entropy.eventID.1, type := .authorizationTransactionCreated, result := .success
    actorUserID := none, targetType := some .authTransaction, targetID := some entropy.id.1
    requestID := requestID.text, changedFields := ["created"], occurredAt := now }

/-- `create` for `KindAuthorization`, up to the call of the store. -/
def createAuthorization (service : Service) (sha : Sha256) (entropy : Entropy) (input : VerifiedInput)
    (requestID : Audit.RequestID) (now : Time) : Except Error Created :=
  if valid : (createdEvent entropy requestID now).validate = true then
    .ok
      { token := newToken entropy.token
        transaction :=
          { id := entropy.id.1, tokenHash := hashToken sha (newToken entropy.token)
            kind := .kindAuthorization, clientID := some input.clientID
            redirectURI := input.redirectURI, scopes := input.scopes
            pkceChallenge := input.pkceChallenge
            pkceMethod := if input.pkceChallenge != "" then "S256" else ""
            state := input.state, nonce := input.nonce, promptCreate := input.promptCreate
            responseType := input.responseType, responseMode := input.responseMode
            prompts := input.prompts, maxAgeSeconds := input.maxAgeSeconds.map Int.ofNat
            createdAt := now, expiresAt := now + service.ttl }
        event := ⟨createdEvent entropy requestID now, valid, by simp [createdEvent]⟩ }
  else .error .invalidEvent

/-- The input with canonical scopes, and the prompt that `PromptCreate` stands for. -/
def canonicalInput (input : VerifiedInput) : VerifiedInput :=
  { input with
    scopes := canonicalStrings input.scopes
    prompts := if input.promptCreate && input.prompts.isEmpty then ["create"] else input.prompts }

/-- `CreateVerified`, up to the call of the store. -/
def createVerified (service : Service) (urls : URLParser) (sha : Sha256) (entropy : Entropy)
    (input : VerifiedInput) (requestID : Audit.RequestID) (now : Time) : Except Error Created :=
  if validInput urls (canonicalInput input) then
    createAuthorization service sha entropy (canonicalInput input) requestID now
  else .error .invalid

/-! ## Rows -/

/-- `int64ToUint32`. -/
def int64ToUint32 (value : Option Int) : Option Int :=
  value.filter fun value => 0 ≤ value && value < 2 ^ 32

/-- `mapAuthTransaction`, without the two columns that `Resolve` reads before it. -/
def mapAuthTransaction (row : AuthTransaction) : Transaction :=
  { id := row.id, tokenHash := row.tokenHash, kind := row.transactionKind, clientID := row.clientID
    redirectURI := valueString row.redirectURI, scopes := row.scopes
    pkceChallenge := valueString row.pkceChallenge, pkceMethod := valueString row.pkceMethod
    state := valueString row.stateValue, nonce := valueString row.nonceValue
    promptCreate := row.promptCreate, responseType := valueString row.responseType
    responseMode := valueString row.responseMode, prompts := row.promptValues
    maxAgeSeconds := int64ToUint32 row.maxAgeSeconds, createdAt := row.createdAt
    expiresAt := row.expiresAt }

/-- `validAuthorizationTransaction` of the authorization service. -/
def validAuthorizationTransaction (value : Transaction) : Bool :=
  value.id != Uuid.nil && value.kind == .kindAuthorization && value.clientID.any (· != Uuid.nil) &&
    value.responseType == "code" && value.responseMode == "query" && value.redirectURI != "" &&
    value.pkceMethod == "S256" && value.pkceChallenge.utf8ByteSize == 43 &&
    1 ≤ value.scopes.length && value.scopes.length ≤ 4

/-! ## A parsed request -/

/-- The prompt values of the protocol, sorted. -/
def sortedPrompts : List String := ["consent", "create", "login", "none"]

/-- What the parser guarantees about a request. -/
structure Parsed (urls : URLParser) (allowLoopback : Bool) (verified : VerifiedAuthorizationRequest) :
    Prop where
  clientID : verified.client.id ≠ Uuid.nil
  redirectURI : validateURI urls allowLoopback verified.redirectURI
  responseType : verified.responseType = "code"
  responseMode : verified.responseMode = "query"
  scopes : verified.scopes ∈ supportedScopes.sublists
  openid : "openid" ∈ verified.scopes
  challenge : ∃ digest : Bytes, digest.length = 32 ∧
    verified.pkceChallenge = String.ofList (encodeRawURL digest)
  state : verified.state = "" ∨ Opaque verified.state
  nonce : verified.nonce = "" ∨ Opaque verified.nonce
  prompts : verified.prompts ∈ sortedPrompts.sublists
  alone : "none" ∈ verified.prompts → verified.prompts = ["none"]
  apart : ¬ ("create" ∈ verified.prompts ∧ "login" ∈ verified.prompts)
  maxAge : ∀ age, verified.maxAge = some age → age ≤ maxAgeSeconds

section Parsed

variable {urls : URLParser} {allowLoopback : Bool} {db : Db} {rawQuery : Octets}
  {verified : VerifiedAuthorizationRequest}

/-- Legal prompts, once sorted, are a sublist of the prompt values. -/
theorem legalPrompts_sorted {parts : List String} (legal : LegalPrompts parts) :
    sortStrings parts ∈ sortedPrompts.sublists := by
  have sorted : (sortStrings parts).Pairwise (· < ·) := by
    have distinct : (sortStrings parts).Nodup :=
      (Consent.sortStrings_perm parts).nodup_iff.mpr legal.distinct
    exact (Consent.sortStrings_pairwise parts).imp₂ (fun _ _ le ne => lt_of_le_of_ne le ne) distinct
  refine Consent.mem_sublists_of_sorted (by decide) sorted fun prompt member => ?_
  have listed := legal.supported prompt (Consent.mem_sortStrings.mp member)
  simp only [supportedPrompts, sortedPrompts, List.mem_cons, List.not_mem_nil, or_false] at listed ⊢
  tauto

theorem parsed_of_ok
    (parsed : parseAuthorizationRequest (registry urls allowLoopback db) rawQuery = .ok verified) :
    Parsed urls allowLoopback verified := by
  obtain ⟨⟨values, client⟩, redirect, read⟩ := Relational.bind_ok.mp parsed
  have trusted := trustRedirect_ok.mp redirect
  obtain ⟨accepted, scopes, prompts, maxAge, isScopes, isPrompts, isMaxAge, rfl⟩ :=
    parseTrusted_ok.mp read
  obtain ⟨parts, -, areSupported, openid, rfl⟩ := parseScope_iff.mp isScopes
  obtain ⟨publicID, -, -, resolved⟩ := trusted.clientID
  obtain ⟨digest, length, isDigest⟩ := accepted.challenge
  have opaqueState : requestState values = "" ∨ Opaque (requestState values) := by
    rw [requestState]
    split
    · rename_i valid
      exact Or.inr (validOpaqueParameter_iff.mp (Bool.and_eq_true_iff.mp valid).2)
    · exact Or.inl rfl
  have opaqueNonce : values.get "nonce" = "" ∨ Opaque (values.get "nonce") := by
    rcases Nat.lt_or_ge (values.all "nonce").length 1 with absent | present
    · have none : values.all "nonce" = [] := List.length_eq_zero_iff.mp (by omega)
      rw [Values.get, none]
      exact Or.inl rfl
    · have once := Nat.le_antisymm (accepted.single "nonce" (by decide)) present
      exact Or.inr (accepted.nonce _ (Values.all_of_length once))
  have prompted : prompts ∈ sortedPrompts.sublists ∧ ("none" ∈ prompts → prompts = ["none"]) ∧
      ¬ ("create" ∈ prompts ∧ "login" ∈ prompts) := by
    rcases parsePrompt_iff.mp isPrompts with ⟨-, rfl⟩ | ⟨parts, legal, -, rfl⟩
    · exact ⟨by decide, fun member => absurd member List.not_mem_nil,
        fun both => absurd both.1 List.not_mem_nil⟩
    · refine ⟨legalPrompts_sorted legal, fun member => ?_, ?_⟩
      · rw [legal.alone (Consent.mem_sortStrings.mp member)]
        rfl
      · simpa only [Consent.mem_sortStrings] using legal.apart
  refine ⟨?_, trusted.wellFormed, rfl, rfl, ?_, Consent.mem_sortedSet.mpr openid,
    ⟨digest, length, Values.get_of_all isDigest⟩, opaqueState, opaqueNonce, prompted.1, prompted.2.1,
    prompted.2.2, ?_⟩
  · have isActive := (Option.filter_eq_some_iff.mp
      (Option.ite_none_left_eq_some.mp resolved).2).2
    simp only [activeClientRecord, Bool.and_eq_true, bne_iff_ne, ne_eq] at isActive
    exact isActive.1.1
  · refine Consent.sublist_of_sorted (Consent.sortedSet_pairwise parts) fun scope member => ?_
    exact (areSupported scope (Consent.mem_sortedSet.mp member)).1
  · intro age isAge
    rcases parseMaxAge_iff.mp isMaxAge with ⟨-, rfl⟩ | ⟨n, small, -, rfl⟩
    · cases isAge
    · cases isAge
      exact small

/-! ## The validators behind the parser -/

/-- The client service and the authflow service look at one parsed URL. -/
theorem validAbsoluteURI_of_validateURI {raw : String} (valid : validateURI urls allowLoopback raw) :
    raw ≠ "" ∧ raw.utf8ByteSize ≤ 2048 ∧ validAbsoluteURI urls raw := by
  unfold validateURI at valid
  split at valid
  · cases valid
  · rename_i shaped
    simp only [Bool.or_eq_true, beq_iff_eq, decide_eq_true_eq, not_or, Nat.not_lt, gt_iff_lt] at shaped
    refine ⟨shaped.1.1.1.1, shaped.1.1.1.2, ?_⟩
    rw [validAbsoluteURI]
    revert valid
    cases urls.parse raw with
    | none => exact nofun
    | some url =>
      intro valid
      simp only at valid ⊢
      split at valid
      · cases valid
      · rename_i absolute
        simp only [Bool.or_eq_true, beq_iff_eq, bne_iff_ne, not_or, ne_eq, not_not,
          Bool.not_eq_true] at absolute
        obtain ⟨⟨⟨⟨scheme, host⟩, user⟩, fragment⟩, -⟩ := absolute
        simp [scheme, host, user, fragment]

/-- The scope validators agree on sorted sets with `openid`. -/
theorem scopes_agree : ∀ scopes ∈ supportedScopes.sublists, "openid" ∈ scopes →
    canonicalStrings scopes = scopes ∧ scopes.isEmpty = false ∧ scopes.length ≤ 4 ∧
      validOIDCScopes scopes ∧ scopesValid 1 scopes := by
  decide +kernel

/-- The prompt validators agree on legal sorted prompts. -/
theorem prompts_agree : ∀ prompts ∈ sortedPrompts.sublists,
    ("none" ∈ prompts → prompts = ["none"]) → ¬ ("create" ∈ prompts ∧ "login" ∈ prompts) →
      validPrompts prompts ∧ (contains prompts "create" && prompts.isEmpty) = false ∧
        prompts.length ≤ 4 ∧
        (sortedUnique prompts &&
          (prompts.all fun value => ["consent", "create", "login", "none"].contains value) &&
          (!prompts.contains "none" || prompts.length == 1) &&
          !(prompts.contains "create" && prompts.contains "login") &&
          contains prompts "create" == prompts.contains "create") := by
  decide +kernel

theorem challenge_agrees {digest : Bytes} (length : digest.length = 32) :
    isChallenge (String.ofList (encodeRawURL digest)) ∧
      (String.ofList (encodeRawURL digest)).utf8ByteSize = 43 := by
  have size : (encodeRawURL digest).length = 43 := by rw [length_encodeRawURL, length]
  have table : ∀ value < 64, isChallengeChar (base64Char value) := by decide +kernel
  refine ⟨?_, by rw [utf8ByteSize_of_ascii (encodeRawURL_ascii digest), size]⟩
  rw [isChallenge, Bool.and_eq_true, beq_iff_eq, String.length_ofList, List.all_eq_true,
    String.toList_ofList]
  refine ⟨size, fun c member => ?_⟩
  obtain ⟨value, small, rfl⟩ := encodeRawURL_chars digest c member
  exact table value small

theorem valueString_pointerString (value : String) : valueString (pointerString value) = value := by
  rw [pointerString]
  split
  · rename_i empty
    rw [beq_iff_eq.mp empty]
    rfl
  · rfl

/-- An opaque value or its absence fits the column. -/
theorem opaque_fits {value : String} (fits : value = "" ∨ Opaque value) :
    value.utf8ByteSize ≤ 1024 ∧
      (pointerString value).all fun text => octetsBetween text 1 1024 := by
  rcases fits with rfl | ⟨least, most, -⟩
  · exact ⟨by decide, rfl⟩
  · have bound : maxOpaqueParameterBytes = 1024 := rfl
    rw [bound] at most
    refine ⟨most, ?_⟩
    rw [pointerString]
    split
    · rfl
    · simp [octetsBetween, least, most]

/-! ## The transaction of a parsed request -/

/-- The transaction that is created for a parsed request. -/
def transactionOf (service : Service) (sha : Sha256) (entropy : Entropy)
    (verified : VerifiedAuthorizationRequest) (now : Time) : Transaction :=
  { id := entropy.id.1, tokenHash := hashToken sha (newToken entropy.token)
    kind := .kindAuthorization, clientID := some verified.client.id
    redirectURI := verified.redirectURI, scopes := verified.scopes
    pkceChallenge := verified.pkceChallenge, pkceMethod := "S256", state := verified.state
    nonce := verified.nonce, promptCreate := contains verified.prompts "create"
    responseType := "code", responseMode := "query", prompts := verified.prompts
    maxAgeSeconds := verified.maxAge.map Int.ofNat, createdAt := now
    expiresAt := now + service.ttl }

variable {service : Service} {sha : Sha256} {entropy : Entropy} {requestID : Audit.RequestID}
  {now : Time}

theorem createVerified_ok (parsed : Parsed urls allowLoopback verified) (dated : now.isZero = false) :
    ∃ event, createVerified service urls sha entropy (verifiedInput verified) requestID now =
      .ok ⟨newToken entropy.token, transactionOf service sha entropy verified now, event⟩ := by
  obtain ⟨canonical, nonempty, few, valid, -⟩ := scopes_agree _ parsed.scopes parsed.openid
  obtain ⟨validPrompts, created, -⟩ := prompts_agree _ parsed.prompts parsed.alone parsed.apart
  obtain ⟨digest, length, isDigest⟩ := parsed.challenge
  obtain ⟨-, -, absolute⟩ := validAbsoluteURI_of_validateURI parsed.redirectURI
  have challenge : validS256Challenge verified.pkceChallenge :=
    validS256Challenge_iff.mpr ⟨digest, length, isDigest⟩
  have challenged : verified.pkceChallenge ≠ "" := by
    intro empty
    rw [empty] at challenge
    exact absurd challenge (by decide)
  have aged : verified.maxAge.all (· ≤ 30 * 24 * 60 * 60) := by
    cases isAge : verified.maxAge with
    | none => rfl
    | some age => exact decide_eq_true (parsed.maxAge age isAge)
  have admitted : validInput urls (verifiedInput verified) := by
    simp [validInput, verifiedInput, parsed.clientID, absolute, parsed.responseType,
      parsed.responseMode, nonempty, few, valid, challenge, (opaque_fits parsed.state).1,
      (opaque_fits parsed.nonce).1, validPrompts, aged]
  have same : canonicalInput (verifiedInput verified) = verifiedInput verified := by
    simp only [canonicalInput, verifiedInput, canonical, created]
    rfl
  have eventValid : (createdEvent entropy requestID now).validate := by
    have listed : Audit.validChangedFields.contains "created" := by decide
    have notNil : (createdEvent entropy requestID now).targetID ≠ some Uuid.nil :=
      fun isNil => entropy.id.2 (Option.some.inj isNil)
    simp only [Audit.Event.validate, Bool.and_eq_true, bne_iff_ne, ne_eq]
    refine ⟨⟨⟨⟨⟨entropy.eventID.2, ?_⟩, requestID.valid⟩, rfl⟩, notNil⟩, ?_⟩
    · exact Bool.not_eq_true' _ ▸ dated
    · simpa [createdEvent] using listed
  refine ⟨⟨_, eventValid, by simp [createdEvent]⟩, ?_⟩
  rw [createVerified, same, if_pos admitted, createAuthorization, dif_pos eventValid]
  simp [transactionOf, verifiedInput, challenged, parsed.responseType, parsed.responseMode]

theorem transactionOf_checks (parsed : Parsed urls allowLoopback verified)
    (visible : microseconds 1 ≤ service.ttl) :
    checkViolation (transactionOf service sha entropy verified now).row.checks = none := by
  obtain ⟨-, -, fewScopes, -, scopes⟩ := scopes_agree _ parsed.scopes parsed.openid
  obtain ⟨-, -, few, prompts⟩ := prompts_agree _ parsed.prompts parsed.alone parsed.apart
  obtain ⟨digest, length, encoded⟩ := parsed.challenge
  obtain ⟨challenge, size⟩ := challenge_agrees length
  rw [← encoded] at challenge size
  obtain ⟨nonempty, short, -⟩ := validAbsoluteURI_of_validateURI parsed.redirectURI
  have located : pointerString verified.redirectURI = some verified.redirectURI := by
    rw [pointerString, if_neg (by simpa using nonempty)]
  have sized : octetsBetween verified.redirectURI 1 2048 := by
    have least : verified.redirectURI.utf8ByteSize ≠ 0 := by simpa using nonempty
    simp only [octetsBetween, Bool.and_eq_true, decide_eq_true_eq]
    omega
  have challenged : pointerString verified.pkceChallenge = some verified.pkceChallenge := by
    rw [pointerString, if_neg]
    intro empty
    rw [beq_iff_eq.mp empty] at size
    cases size
  have exactly : octetsBetween verified.pkceChallenge 43 43 := by
    rw [octetsBetween, size]
    rfl
  have aged : (verified.maxAge.map Int.ofNat).all fun age => 0 ≤ age && age ≤ 2592000 := by
    cases isAge : verified.maxAge with
    | none => rfl
    | some age =>
      have small : age ≤ 2592000 := parsed.maxAge age isAge
      simp only [Option.map_some, Option.all_some, Bool.and_eq_true, decide_eq_true_eq]
      exact ⟨Int.natCast_nonneg age, Int.ofNat_le.mpr small⟩
  have ordered : timestamp now < timestamp (now + service.ttl) := timestamp_lt_add visible
  have hashed : isDigest (hashToken sha (newToken entropy.token)) :=
    beq_iff_eq.mpr (sha.length_sum _)
  have named : pointerString "code" = some "code" ∧ pointerString "query" = some "query" ∧
    pointerString "S256" = some "S256" := by decide
  simp only [checkViolation_eq_none, AuthTransaction.checks, Transaction.row, transactionOf,
    List.mem_cons, List.not_mem_nil, or_false, forall_eq_or_imp, forall_eq, located, challenged, named]
  refine ⟨?_, ?_, ?_, rfl, ?_, prompts, ?_, hashed⟩
  · simp [challenge, scopes]
  · simp only [Option.all_some, sized, exactly, (opaque_fits parsed.state).2,
      (opaque_fits parsed.nonce).2, decide_eq_true few, aged]
    rfl
  · simpa using ordered
  · simp [challenge]
  · exact decide_eq_true (fewScopes.trans (by decide))

/-- Reading the row back gives the transaction, with its times in whole microseconds. -/
theorem mapAuthTransaction_row (parsed : Parsed urls allowLoopback verified) :
    mapAuthTransaction (transactionOf service sha entropy verified now).row =
      { transactionOf service sha entropy verified now with
        createdAt := timestamp now
        expiresAt := timestamp (now + service.ttl) } := by
  have aged : int64ToUint32 (verified.maxAge.map Int.ofNat) = verified.maxAge.map Int.ofNat := by
    cases isAge : verified.maxAge with
    | none => rfl
    | some age =>
      have small := parsed.maxAge age isAge
      have bound : maxAgeSeconds = 2592000 := rfl
      rw [int64ToUint32, Option.map_some, Option.filter_eq_some_iff]
      refine ⟨rfl, ?_⟩
      simp only [Int.ofNat_eq_natCast, Bool.and_eq_true, decide_eq_true_eq]
      omega
  simp only [mapAuthTransaction, Transaction.row, valueString_pointerString, transactionOf, aged]

/-- Under the lock the row is the transaction it was made from, until it expires. -/
theorem validateLocked_row {expected : Transaction} (parsed : Parsed urls allowLoopback verified)
    (same : expected = transactionOf service sha entropy verified now ∨
      expected = mapAuthTransaction (transactionOf service sha entropy verified now).row)
    {later : Time} (running : later < (transactionOf service sha entropy verified now).row.expiresAt) :
    validateLockedAuthorizationTransaction (transactionOf service sha entropy verified now).row expected
      later = .ok () := by
  have expired : ((transactionOf service sha entropy verified now).row.consumedAt.isNone &&
      (transactionOf service sha entropy verified now).row.expiresAt ≤ later) = false :=
    Bool.and_eq_false_iff.mpr (Or.inr (decide_eq_false (Int.not_le.mpr running)))
  have matched : matchesExpected (transactionOf service sha entropy verified now).row expected := by
    rw [mapAuthTransaction_row parsed] at same
    rcases same with rfl | rfl <;>
      simp [matchesExpected, Transaction.row, valueString_pointerString, transactionOf]
  rw [validateLockedAuthorizationTransaction, expired, matched]
  rfl

end Parsed

/-- **A parsed request survives the pipeline.** Unless the clock reads Go's zero time, `CreateVerified`
accepts its input, the row passes every CHECK constraint and reads back as the transaction with its
times in whole microseconds, and the transaction is valid for the authorization service and, under the
lock, until the row expires. -/
theorem parsed_request_survives {urls : URLParser} {allowLoopback : Bool} {db : Db} {rawQuery : Octets}
    {verified : VerifiedAuthorizationRequest}
    (parsed : parseAuthorizationRequest (registry urls allowLoopback db) rawQuery = .ok verified)
    (sha : Sha256) (service : Service) (visible : microseconds 1 ≤ service.ttl) (entropy : Entropy)
    (requestID : Audit.RequestID) (now : Time) (dated : now.isZero = false) :
    ∃ created,
      createVerified service urls sha entropy (verifiedInput verified) requestID now = .ok created ∧
      checkViolation created.transaction.row.checks = none ∧
      mapAuthTransaction created.transaction.row =
        { created.transaction with
          createdAt := timestamp created.transaction.createdAt
          expiresAt := timestamp created.transaction.expiresAt } ∧
      validAuthorizationTransaction created.transaction ∧
      ∀ expected ∈ [created.transaction, mapAuthTransaction created.transaction.row],
        ∀ later < created.transaction.row.expiresAt,
          validateLockedAuthorizationTransaction created.transaction.row expected later = .ok () := by
  have facts := parsed_of_ok parsed
  obtain ⟨event, created⟩ := createVerified_ok facts dated
  refine ⟨_, created, transactionOf_checks facts visible, mapAuthTransaction_row facts, ?_, ?_⟩
  · obtain ⟨-, nonempty, few, -⟩ := scopes_agree _ facts.scopes facts.openid
    obtain ⟨digest, length, isDigest⟩ := facts.challenge
    obtain ⟨located, -⟩ := validAbsoluteURI_of_validateURI facts.redirectURI
    obtain ⟨-, size⟩ := challenge_agrees length
    rw [← isDigest] at size
    have some : 1 ≤ verified.scopes.length :=
      List.length_pos_iff.mpr (List.isEmpty_eq_false_iff.mp nonempty)
    simp [validAuthorizationTransaction, transactionOf, entropy.id.2, facts.clientID, located, size,
      few, some]
  · intro expected listed later running
    refine validateLocked_row facts ?_ running
    simpa using listed

/-- At Go's zero time the audit event is invalid, and no transaction is created. -/
theorem createVerified_at_zero (service : Service) (urls : URLParser) (sha : Sha256) (entropy : Entropy)
    (input : VerifiedInput) (requestID : Audit.RequestID) (created : Created) :
    createVerified service urls sha entropy input requestID 0 ≠ .ok created := by
  have undated : ¬ (createdEvent entropy requestID 0).validate = true := by
    simp [Audit.Event.validate, createdEvent, Time.isZero]
  rw [createVerified]
  split
  · rw [createAuthorization, dif_neg undated]
    exact nofun
  · exact nofun

theorem parsed_request_survives_sample : ∃ created,
    (∃ verified, createVerified ⟨minutes 10, by decide, by decide⟩ Sample.urls Sample.sha
      ⟨⟨List.replicate 32 0, rfl⟩, ⟨3, by decide⟩, ⟨4, by decide⟩⟩ (verifiedInput verified)
      Sample.requestID Sample.start = .ok created) ∧
      checkViolation created.transaction.row.checks = none := by
  obtain ⟨verified, parsed⟩ := Sample.ageOf_ok Sample.hour_parsed
  obtain ⟨created, accepted, checked, -⟩ := parsed_request_survives parsed Sample.sha
    ⟨minutes 10, by decide, by decide⟩ (by decide)
    ⟨⟨List.replicate 32 0, rfl⟩, ⟨3, by decide⟩, ⟨4, by decide⟩⟩ Sample.requestID Sample.start
    (by decide)
  exact ⟨created, ⟨verified, accepted⟩, checked⟩

/-- A parsed request is not accepted at Go's zero time. -/
theorem parsed_request_undated : ∃ verified,
    parseAuthorizationRequest (registry Sample.urls false Sample.clientCreated.after)
      (Sample.request "&max_age=3600") = .ok verified ∧
    ∀ service sha entropy requestID created,
      createVerified service Sample.urls sha entropy (verifiedInput verified) requestID 0 ≠
        .ok created := by
  obtain ⟨verified, parsed⟩ := Sample.ageOf_ok Sample.hour_parsed
  exact ⟨verified, parsed, fun service sha entropy requestID created =>
    createVerified_at_zero service Sample.urls sha entropy _ requestID created⟩

end OneIssuer.Authflow
