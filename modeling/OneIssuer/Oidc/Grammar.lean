import OneIssuer.Oidc.Authorize
import OneIssuer.Runs

/-!
# Grammar of the authorization request

What each parser of the request accepts, stated against the texts themselves: a list of words with
single spaces between them, a printed number, the encoding of 32 bytes. `Trusted` says when a redirect
goes to the client and `Accepted` when the request succeeds.

**What it does not establish.** How the query reaches the parser, and what the handler shows for a
refusal.
-/

set_option autoImplicit false

namespace OneIssuer.Oidc

open Wire Token
open OneIssuer.Consent (supported sortStrings sortedSet)

/-! ## Lists with single spaces -/

theorem splitSpaces_eq (text : List Char) : splitSpaces text = text.splitOn ' ' := by
  induction text with
  | nil => rfl
  | cons c rest ih =>
    rw [List.splitOn_cons_eq_if_modifyHead]
    by_cases isSpace : c = ' '
    · rw [if_pos (beq_iff_eq.mpr isSpace), isSpace, splitSpaces, ih]
    · rw [if_neg (by simpa using isSpace), splitSpaces.eq_3 c rest isSpace, ih]
      obtain ⟨part, parts, isParts⟩ := List.exists_cons_of_ne_nil (List.splitOn_ne_nil ' ' rest)
      rw [isParts]
      rfl

/-- A word that is not empty and has no space. -/
def isWord (text : String) : Bool := text != "" && !text.toList.any isSpace

/-- A strict list is the join of its parts. -/
theorem splitStrictSpaceList_join {raw : String} {parts : List String}
    (split : splitStrictSpaceList raw = some parts) :
    parts ≠ [] ∧ raw = " ".intercalate parts := by
  rw [splitStrictSpaceList] at split
  split at split
  · cases split
  · simp only [Option.ite_none_left_eq_some, Option.some.injEq] at split
    obtain ⟨-, rfl⟩ := split
    rw [splitSpaces_eq]
    refine ⟨by simp, String.toList_injective ?_⟩
    rw [String.toList_intercalate, List.map_map]
    have same : String.toList ∘ String.ofList = id := by
      funext text
      exact String.toList_ofList
    rw [same, List.map_id]
    exact (List.intercalate_splitOn ' ').symm

/-- The first and the last character of joined words are visible, and the others are visible or
single spaces. -/
theorem intercalate_visible {words : List (List Char)} (nonempty : words ≠ [])
    (visible : ∀ word ∈ words, word ≠ [] ∧ ∀ c ∈ word, isSpace c = false) :
    ∃ first middle last, [' '].intercalate words = first :: middle ∧
      ([' '].intercalate words).getLast? = some last ∧ isSpace first = false ∧
      isSpace last = false ∧ ∀ c ∈ [' '].intercalate words, c = ' ' ∨ isSpace c = false := by
  induction words with
  | nil => exact absurd rfl nonempty
  | cons word rest ih =>
    obtain ⟨notNil, wordVisible⟩ := visible word List.mem_cons_self
    obtain ⟨first, middle, rfl⟩ := List.exists_cons_of_ne_nil notNil
    have firstVisible := wordVisible first List.mem_cons_self
    cases rest with
    | nil =>
      refine ⟨first, middle, (first :: middle).getLast notNil, List.intercalate_singleton, ?_,
        firstVisible, ?_, ?_⟩
      · rw [List.intercalate_singleton]
        exact List.getLast?_eq_some_getLast notNil
      · exact wordVisible _ (List.getLast_mem notNil)
      · rw [List.intercalate_singleton]
        exact fun c member => Or.inr (wordVisible c member)
    | cons next rest =>
      obtain ⟨_, _, last, -, isLast, -, lastVisible, others⟩ :=
        ih nofun fun word member => visible word (List.mem_cons_of_mem _ member)
      rw [List.intercalate_cons_cons]
      refine ⟨first, _, last, rfl, ?_, firstVisible, lastVisible, fun c member => ?_⟩
      · rw [List.getLast?_append, isLast, Option.some_or]
      · simp only [List.mem_append, List.mem_singleton] at member
        rcases member with (inWord | rfl) | inRest
        · exact Or.inr (wordVisible c inWord)
        · exact Or.inl rfl
        · exact others c inRest

/-- The join of words is a strict list of them. -/
theorem splitStrictSpaceList_words {parts : List String} (nonempty : parts ≠ [])
    (words : ∀ part ∈ parts, isWord part) :
    splitStrictSpaceList (" ".intercalate parts) = some parts := by
  have shaped (part : String) (member : part ∈ parts) :
      part ≠ "" ∧ ∀ c ∈ part.toList, isSpace c = false := by
    simpa [isWord] using words part member
  have visible : ∀ word ∈ parts.map String.toList, word ≠ [] ∧ ∀ c ∈ word, isSpace c = false := by
    intro word member
    obtain ⟨part, inParts, rfl⟩ := List.mem_map.mp member
    obtain ⟨notEmpty, visible⟩ := shaped part inParts
    exact ⟨by simpa using notEmpty, visible⟩
  obtain ⟨first, middle, last, isText, isLast, firstVisible, lastVisible, others⟩ :=
    intercalate_visible (by simpa using nonempty) visible
  have chars : (" ".intercalate parts).toList = [' '].intercalate (parts.map String.toList) :=
    String.toList_intercalate
  have notEmpty : (" ".intercalate parts == "") = false := by
    rw [beq_eq_false_iff_ne]
    intro same
    rw [same, isText] at chars
    cases chars
  have trimmed : isTrimmed (" ".intercalate parts) := by
    rw [isTrimmed, chars, isLast, isText]
    simp [firstVisible, lastVisible]
  have plain : ((" ".intercalate parts).toList.any fun c => c == '\t' || c == '\r' || c == '\n') =
      false := by
    rw [List.any_eq_false, chars]
    intro c member isLineEnd
    rcases others c member with rfl | visible
    · exact absurd isLineEnd (by decide)
    · simp only [Bool.or_eq_true, beq_iff_eq] at isLineEnd
      rcases isLineEnd with (rfl | rfl) | rfl <;> exact absurd visible (by decide)
  have parted : (splitSpaces (" ".intercalate parts).toList).map String.ofList = parts := by
    rw [chars, splitSpaces_eq, List.splitOn_intercalate, List.map_map]
    · have same : String.ofList ∘ String.toList = id := by
        funext text
        exact String.ofList_toList
      rw [same, List.map_id]
    · intro word member inWord
      exact absurd ((visible word member).2 ' ' inWord) (by decide)
    · simpa using nonempty
  have noEmpty : parts.contains "" = false := by
    rw [Bool.eq_false_iff, ne_eq, List.contains_iff_mem]
    exact fun member => (shaped "" member).1 rfl
  rw [splitStrictSpaceList, notEmpty, trimmed, plain]
  simp only [parted, noEmpty]
  rfl

/-! ## Parameters -/

theorem isWord_of_supported {scope : String} (isSupported : supported scope) : isWord scope := by
  simp only [supported, Bool.or_eq_true, beq_iff_eq] at isSupported
  rcases isSupported with ((rfl | rfl) | rfl) | rfl <;> decide

theorem parseScope_iff {raw : String} {allowed scopes : List String} :
    parseScope raw allowed = some scopes ↔
      ∃ parts, raw = " ".intercalate parts ∧ (∀ scope ∈ parts, supported scope ∧ scope ∈ allowed) ∧
        "openid" ∈ parts ∧ scopes = sortedSet parts := by
  simp only [parseScope, Option.bind_eq_bind, Option.bind_eq_some_iff,
    Option.ite_none_left_eq_some, Option.some.injEq, List.any_eq_true, Bool.or_eq_true,
    Bool.not_eq_true', not_exists, not_and, not_or, Bool.not_eq_false, List.contains_iff_mem]
  constructor
  · rintro ⟨parts, isList, allowed, openid, rfl⟩
    exact ⟨parts, (splitStrictSpaceList_join isList).2, allowed, openid, rfl⟩
  · rintro ⟨parts, rfl, allowed, openid, rfl⟩
    have nonempty : parts ≠ [] := List.ne_nil_of_mem openid
    have words := splitStrictSpaceList_words nonempty fun scope member =>
      isWord_of_supported (allowed scope member).1
    exact ⟨parts, words, allowed, openid, rfl⟩

/-- A prompt selection of the protocol: `none` stands alone, and `create` excludes `login`. -/
structure LegalPrompts (prompts : List String) : Prop where
  nonempty : prompts ≠ []
  supported : ∀ prompt ∈ prompts, prompt ∈ supportedPrompts
  distinct : prompts.Nodup
  alone : "none" ∈ prompts → prompts = ["none"]
  apart : ¬ ("create" ∈ prompts ∧ "login" ∈ prompts)

theorem isWord_of_prompt : ∀ prompt ∈ supportedPrompts, isWord prompt := by
  decide

theorem parsePrompt_iff {entries prompts : List String} :
    parsePrompt entries = some prompts ↔
      (entries = [] ∧ prompts = []) ∨
        ∃ parts, LegalPrompts parts ∧ entries = [" ".intercalate parts] ∧
          prompts = sortStrings parts := by
  match entries with
  | [] => simp [parsePrompt, eq_comm]
  | [raw] =>
    simp only [parsePrompt, Option.bind_eq_bind, Option.bind_eq_some_iff,
      Option.ite_none_left_eq_some, Option.some.injEq, Bool.or_eq_true, not_or, List.any_eq_true,
      Bool.not_eq_true', not_exists, not_and, Bool.not_eq_false, List.contains_iff_mem,
      decide_eq_false_iff_not, not_not, Bool.and_eq_true, bne_iff_ne, ne_eq, reduceCtorEq,
      false_and, false_or, List.cons.injEq, and_true]
    constructor
    · rintro ⟨parts, isList, ⟨areSupported, distinct⟩, ⟨alone, apart⟩, rfl⟩
      obtain ⟨nonempty, isRaw⟩ := splitStrictSpaceList_join isList
      refine ⟨parts, ⟨nonempty, areSupported, distinct, fun member => ?_, ?_⟩, isRaw, rfl⟩
      · obtain ⟨only, isOnly⟩ := List.length_eq_one_iff.mp (alone member)
        rw [isOnly, List.mem_singleton] at member
        rw [isOnly, member]
      · exact fun both => apart both.1 both.2
    · rintro ⟨parts, legal, rfl, rfl⟩
      have words := splitStrictSpaceList_words legal.nonempty fun prompt member =>
        isWord_of_prompt prompt (legal.supported prompt member)
      refine ⟨parts, words, ⟨legal.supported, legal.distinct⟩, ⟨fun member => ?_, ?_⟩, rfl⟩
      · rw [legal.alone member]
        rfl
      · exact fun create login => legal.apart ⟨create, login⟩
  | _ :: _ :: _ => simp [parsePrompt]

theorem parseMaxAge_iff {entries : List String} {maxAge : Option Nat} :
    parseMaxAge entries = some maxAge ↔
      (entries = [] ∧ maxAge = none) ∨
        ∃ n ≤ maxAgeSeconds, entries = [n.repr] ∧ maxAge = some n := by
  match entries with
  | [] => simp [parseMaxAge, eq_comm]
  | [raw] =>
    simp only [parseMaxAge, Option.ite_none_left_eq_some, Option.some.injEq, Bool.not_eq_true',
      Bool.not_eq_false, Bool.or_eq_true, decide_eq_true_eq, not_or, isCanonicalDecimal_iff,
      reduceCtorEq, false_and, false_or, List.cons.injEq, and_true]
    constructor
    · rintro ⟨canonical, ⟨-, small⟩, rfl⟩
      refine ⟨decimal raw.toList, by omega, ?_, rfl⟩
      rw [Nat.repr_eq_ofList_toDigits, ← canonical, String.ofList_toList]
    · rintro ⟨n, small, rfl, rfl⟩
      have value : decimal n.repr.toList = n := by
        rw [Nat.repr_eq_ofList_toDigits, String.toList_ofList]
        exact Nat.ofDigitChars_toDigits (by omega) (by omega)
      have bound : maxAgeSeconds = 2592000 := rfl
      rw [value]
      refine ⟨?_, ⟨by omega, by omega⟩, rfl⟩
      rw [Nat.repr_eq_ofList_toDigits, String.toList_ofList]
  | _ :: _ :: _ => simp [parseMaxAge]

/-- A challenge is the encoding of 32 bytes. -/
theorem validS256Challenge_iff {value : String} :
    validS256Challenge value ↔
      ∃ digest : Bytes, digest.length = 32 ∧ value = String.ofList (encodeRawURL digest) := by
  rw [validS256Challenge, Bool.and_eq_true, beq_iff_eq, beq_iff_eq]
  constructor
  · rintro ⟨size, decoded⟩
    obtain ⟨values, isValues, isLength⟩ := Option.bind_eq_some_iff.mp decoded
    -- 32 bytes need all 43 characters, so no line end was skipped
    have full : value.toList.length ≤
        (value.toList.filter fun c => c != '\r' && c != '\n').length := by
      have characters := length_le_utf8ByteSize value.toList
      rw [String.ofList_toList, size] at characters
      rw [← length_of_mapM isValues, length_of_strictLength isLength]
      omega
    rw [List.filter_sublist.eq_of_length_le full] at isValues
    obtain ⟨small, isText⟩ := base64Values_some isValues
    rw [strictLength_eq] at isLength
    obtain ⟨digest, isDigest, length⟩ := Option.map_eq_some_iff.mp isLength
    refine ⟨digest, length, ?_⟩
    rw [encodeRawURL_strictBytes small isDigest, ← isText, String.ofList_toList]
  · rintro ⟨digest, length, rfl⟩
    rw [utf8ByteSize_of_ascii (encodeRawURL_ascii digest), length_encodeRawURL,
      String.toList_ofList, decodedLength_encodeRawURL, length]
    exact ⟨rfl, rfl⟩

/-! ## The checks after the redirect URI -/

section Checks

variable {ε α : Type}

@[simp] theorem ensure_ok {condition : Bool} {error : ε} {value : Unit} :
    ensure condition error = .ok value ↔ condition = true := by
  cases condition <;> simp [ensure]

theorem error_of_ensure {P : ε → Prop} {condition : Bool} {error : ε} (holds : P error) :
    ∀ failure, ensure condition error = .error failure → P failure := by
  intro failure failed
  cases condition with
  | true => cases failed
  | false =>
    cases failed
    exact holds

@[simp] theorem orError_ok {result : Option α} {error : ε} {value : α} :
    orError result error = .ok value ↔ result = some value := by
  cases result <;> simp [orError]

theorem error_of_orError {P : ε → Prop} {result : Option α} {error : ε} (holds : P error) :
    ∀ failure, orError result error = .error failure → P failure := by
  intro failure failed
  cases result with
  | some value => cases failed
  | none =>
    cases failed
    exact holds

/-- What holds of the errors of both parts holds of the errors of the sequence. -/
theorem error_of_bind {β : Type} {P : ε → Prop} {outcome : Except ε α} {rest : α → Except ε β}
    (first : ∀ error, outcome = .error error → P error)
    (second : ∀ value error, rest value = .error error → P error) :
    ∀ error, (outcome >>= rest) = .error error → P error := by
  intro error failed
  cases outcome with
  | error failure =>
    cases failed
    exact first _ rfl
  | ok value => exact second value error failed

end Checks

/-- A value of one to 1024 bytes without NUL. -/
def Opaque (text : String) : Prop :=
  1 ≤ text.utf8ByteSize ∧ text.utf8ByteSize ≤ maxOpaqueParameterBytes ∧ '\x00' ∉ text.toList

theorem validOpaqueParameter_iff {text : String} : validOpaqueParameter text ↔ Opaque text := by
  simp [validOpaqueParameter, Opaque, and_assoc]

/-- The parameters besides the client and the redirect URI are those of the profile. -/
structure Accepted (client : Client) (values : Values) : Prop where
  single : ∀ name ∈ securityParameters, (values.all name).length ≤ 1
  noRequest : values.all "request" = []
  noRequestURI : values.all "request_uri" = []
  responseType : values.all "response_type" = ["code"]
  responseMode : values.all "response_mode" = [] ∨ values.all "response_mode" = ["query"]
  scope : ∃ parts, values.all "scope" = [" ".intercalate parts] ∧
    (∀ scope ∈ parts, supported scope ∧ scope ∈ client.scopes) ∧ "openid" ∈ parts
  challenge : ∃ digest : Bytes, digest.length = 32 ∧
    values.all "code_challenge" = [String.ofList (encodeRawURL digest)]
  method : values.all "code_challenge_method" = ["S256"]
  prompt : values.all "prompt" = [] ∨
    ∃ parts, LegalPrompts parts ∧ values.all "prompt" = [" ".intercalate parts]
  maxAge : values.all "max_age" = [] ∨ ∃ n ≤ maxAgeSeconds, values.all "max_age" = [n.repr]
  state : ∀ text, values.all "state" = [text] → Opaque text
  nonce : ∀ text, values.all "nonce" = [text] → Opaque text

/-- The checks succeed exactly on the accepted parameters, with what the parsers read. -/
theorem parseTrusted_ok {client : Client} {values : Values} {verified : VerifiedAuthorizationRequest} :
    parseTrusted client values = .ok verified ↔
      Accepted client values ∧
        ∃ scopes prompts maxAge,
          parseScope (values.get "scope") client.scopes = some scopes ∧
          parsePrompt (values.all "prompt") = some prompts ∧
          parseMaxAge (values.all "max_age") = some maxAge ∧
          verified =
            { client, redirectURI := values.get "redirect_uri", responseType := "code"
              responseMode := "query", scopes, pkceChallenge := values.get "code_challenge"
              state := requestState values, nonce := values.get "nonce", prompts, maxAge } := by
  simp only [parseTrusted, Relational.bind_ok, ensure_ok, orError_ok, pure, Except.pure,
    Except.ok.injEq]
  constructor
  · rintro ⟨_, single, _, noRequest, _, noRequestURI, _, required, _, state, _, nonce, _, type, _, mode,
      scopes, isScopes, _, challenge, prompts, isPrompts, maxAge, isMaxAge, rfl⟩
    rw [List.all_eq_true] at single required
    have once (name : String)
        (listed : name ∈ ["response_type", "scope", "code_challenge", "code_challenge_method"]) :
        values.all name = [values.get name] :=
      Values.all_of_length (by simpa using (Bool.and_eq_true_iff.mp (required name listed)).1)
    have atMostOnce (name : String) (listed : name ∈ securityParameters) :
        (values.all name).length ≤ 1 := of_decide_eq_true (single name listed)
    have opaqueOnce {name : String}
        (valid : ((values.all name).length != 1 || validOpaqueParameter (values.get name)) = true)
        (text : String) (isText : values.all name = [text]) : Opaque text := by
      rw [isText, Values.get_of_all isText] at valid
      exact validOpaqueParameter_iff.mp (by simpa using valid)
    obtain ⟨isChallenge, isMethod⟩ := Bool.and_eq_true_iff.mp challenge
    obtain ⟨digest, length, isDigest⟩ := validS256Challenge_iff.mp isChallenge
    obtain ⟨parts, isScope, allowed, openid, -⟩ := parseScope_iff.mp isScopes
    refine ⟨{ single := atMostOnce, noRequest := List.isEmpty_iff.mp noRequest
              noRequestURI := List.isEmpty_iff.mp noRequestURI
              responseType := ?_, responseMode := ?_
              scope := ⟨parts, by rw [once "scope" (by simp), isScope], allowed, openid⟩
              challenge := ⟨digest, length, by rw [once "code_challenge" (by simp), isDigest]⟩
              method := ?_, prompt := ?_, maxAge := ?_
              state := opaqueOnce state, nonce := opaqueOnce nonce },
      scopes, prompts, maxAge, isScopes, isPrompts, isMaxAge, rfl⟩
    · rw [once "response_type" (by simp), beq_iff_eq.mp type]
    · rcases Nat.lt_or_ge (values.all "response_mode").length 1 with absent | present
      · exact Or.inl (List.length_eq_zero_iff.mp (by omega))
      · have isOnce : (values.all "response_mode").length = 1 :=
          Nat.le_antisymm (atMostOnce "response_mode" (by decide)) present
        have isMode : values.get "response_mode" = "query" := by simpa [isOnce] using mode
        rw [Values.all_of_length isOnce, isMode]
        exact Or.inr rfl
    · rw [once "code_challenge_method" (by simp), beq_iff_eq.mp isMethod]
    · rcases parsePrompt_iff.mp isPrompts with ⟨absent, -⟩ | ⟨parts, legal, isEntry, -⟩
      · exact Or.inl absent
      · exact Or.inr ⟨parts, legal, isEntry⟩
    · rcases parseMaxAge_iff.mp isMaxAge with ⟨absent, -⟩ | ⟨n, small, isEntry, -⟩
      · exact Or.inl absent
      · exact Or.inr ⟨n, small, isEntry⟩
  · rintro ⟨accepted, scopes, prompts, maxAge, isScopes, isPrompts, isMaxAge, rfl⟩
    obtain ⟨parts, isScope, allowed, openid⟩ := accepted.scope
    obtain ⟨digest, length, isDigest⟩ := accepted.challenge
    have opaqueOnce {name : String} (valid : ∀ text, values.all name = [text] → Opaque text) :
        ((values.all name).length != 1 || validOpaqueParameter (values.get name)) = true := by
      rw [Bool.or_eq_true, bne_iff_ne, or_iff_not_imp_left, not_not]
      exact fun once => validOpaqueParameter_iff.mpr (valid _ (Values.all_of_length once))
    have nonempty : " ".intercalate parts ≠ "" := by
      intro empty
      rw [Values.get_of_all isScope, empty] at isScopes
      cases isScopes
    have challenge := validS256Challenge_iff.mpr ⟨digest, length, rfl⟩
    have challenged : String.ofList (encodeRawURL digest) ≠ "" := by
      intro empty
      rw [empty] at challenge
      exact absurd challenge (by decide)
    refine ⟨(), ?_, (), by rw [accepted.noRequest]; rfl, (), by rw [accepted.noRequestURI]; rfl, (),
      ?_, (), opaqueOnce accepted.state, (), opaqueOnce accepted.nonce, (), ?_, (), ?_, scopes, isScopes,
      (), ?_, prompts, isPrompts, maxAge, isMaxAge, rfl⟩
    · exact List.all_eq_true.mpr fun name listed => decide_eq_true (accepted.single name listed)
    · simp only [List.all_cons, List.all_nil, Bool.and_true, Bool.and_eq_true, beq_iff_eq,
        bne_iff_ne, ne_eq, accepted.responseType, isScope, isDigest, accepted.method,
        Values.get_of_all accepted.responseType, Values.get_of_all isScope,
        Values.get_of_all isDigest, Values.get_of_all accepted.method]
      exact ⟨⟨rfl, by decide⟩, ⟨rfl, nonempty⟩, ⟨rfl, challenged⟩, rfl, by decide⟩
    · rw [Values.get_of_all accepted.responseType]
      rfl
    · rcases accepted.responseMode with absent | present
      · rw [absent]
        rfl
      · rw [present, Values.get_of_all present]
        rfl
    · rw [Values.get_of_all isDigest, challenge, Values.get_of_all accepted.method]
      rfl

/-- The parsers read accepted parameters. -/
theorem Accepted.parses {client : Client} {values : Values} (accepted : Accepted client values) :
    ∃ verified, parseTrusted client values = .ok verified := by
  obtain ⟨parts, isScope, allowed, openid⟩ := accepted.scope
  have scopes := parseScope_iff.mpr ⟨parts, Values.get_of_all isScope, allowed, openid, rfl⟩
  have prompts : ∃ prompts, parsePrompt (values.all "prompt") = some prompts := by
    rcases accepted.prompt with absent | ⟨parts, legal, isEntry⟩
    · exact ⟨_, parsePrompt_iff.mpr (Or.inl ⟨absent, rfl⟩)⟩
    · exact ⟨_, parsePrompt_iff.mpr (Or.inr ⟨parts, legal, isEntry, rfl⟩)⟩
  have maxAge : ∃ maxAge, parseMaxAge (values.all "max_age") = some maxAge := by
    rcases accepted.maxAge with absent | ⟨n, small, isEntry⟩
    · exact ⟨_, parseMaxAge_iff.mpr (Or.inl ⟨absent, rfl⟩)⟩
    · exact ⟨_, parseMaxAge_iff.mpr (Or.inr ⟨n, small, isEntry, rfl⟩)⟩
  obtain ⟨prompts, arePrompts⟩ := prompts
  obtain ⟨maxAge, isMaxAge⟩ := maxAge
  exact ⟨_, parseTrusted_ok.mpr ⟨accepted, _, prompts, maxAge, scopes, arePrompts, isMaxAge, rfl⟩⟩

/-- Every failure of these checks goes to the redirect URI with the state of the request. -/
theorem parseTrusted_error {client : Client} {values : Values} :
    ∀ error, parseTrusted client values = .error error →
      ∃ code, error = trustedError values code := by
  have fails {condition : Bool} (code : ErrorCode) :
      ∀ error, ensure condition (trustedError values code) = .error error →
        ∃ code, error = trustedError values code := error_of_ensure ⟨code, rfl⟩
  have misses {α : Type} {result : Option α} (code : ErrorCode) :
      ∀ error, orError result (trustedError values code) = .error error →
        ∃ code, error = trustedError values code := error_of_orError ⟨code, rfl⟩
  refine error_of_bind (fails .invalidRequest) fun _ => error_of_bind (fails .requestNotSupported)
    fun _ => error_of_bind (fails .requestURINotSupported) fun _ =>
    error_of_bind (fails .invalidRequest) fun _ => error_of_bind (fails .invalidRequest) fun _ =>
    error_of_bind (fails .invalidRequest) fun _ =>
    error_of_bind (fails .unsupportedResponseType) fun _ =>
    error_of_bind (fails .unsupportedResponseMode) fun _ =>
    error_of_bind (misses .invalidScope) fun _ => error_of_bind (fails .invalidRequest) fun _ =>
    error_of_bind (misses .invalidRequest) fun _ => error_of_bind (misses .invalidRequest) fun _ => ?_
  exact nofun

/-! ## The whole request -/

/-- The request names a client and one of its redirect URIs. -/
structure Trusted (urls : URLParser) (allowLoopback : Bool) (db : Db) (rawQuery : Octets)
    (values : Values) (client : Client) (redirectURI : String) : Prop where
  short : rawQuery.length ≤ maxAuthorizeQueryBytes
  utf8 : (text? rawQuery).isSome
  decoded : (parseQuery rawQuery).bind validQueryUTF8 = some values
  clientID : ∃ publicID, publicID ≠ "" ∧ values.all "client_id" = [publicID] ∧
    db.resolveActive publicID = some client
  active : client.status = .active
  redirect : redirectURI ≠ "" ∧ values.all "redirect_uri" = [redirectURI]
  registered : redirectURI ∈ client.redirectURIs
  wellFormed : validateURI urls allowLoopback redirectURI

section Request

variable {urls : URLParser} {allowLoopback : Bool} {db : Db} {rawQuery : Octets} {values : Values}
  {client : Client}

theorem registry_resolves {publicID : String} {found : Client} :
    ((registry urls allowLoopback db).resolveActive publicID).mapError ResolveError.authorization =
        .ok found ↔ db.resolveActive publicID = some found := by
  cases resolved : db.resolveActive publicID with
  | none => simp [registry, resolved, Except.mapError]
  | some client => simp [registry, resolved, Except.mapError]

theorem trustRedirect_ok :
    trustRedirect (registry urls allowLoopback db) rawQuery = .ok (values, client) ↔
      Trusted urls allowLoopback db rawQuery values client (values.get "redirect_uri") := by
  simp only [trustRedirect, Relational.bind_ok, ensure_ok, orError_ok, registry_resolves, pure,
    Except.pure, Except.ok.injEq, Prod.mk.injEq, Bool.and_eq_true, decide_eq_true_eq, beq_iff_eq,
    bne_iff_ne, ne_eq]
  constructor
  · rintro ⟨_, ⟨short, utf8⟩, _, decoded, _, ⟨⟨⟨one, named⟩, single⟩, nonempty⟩, _, resolved, _, trusted,
      rfl, rfl⟩
    obtain ⟨wellFormed, registered⟩ := Bool.and_eq_true_iff.mp trusted
    obtain ⟨-, -, -, -, active⟩ := Db.resolveActive_some resolved
    exact ⟨short, utf8, decoded, ⟨_, named, Values.all_of_length one, resolved⟩, active,
      ⟨nonempty, Values.all_of_length single⟩, List.contains_iff_mem.mp registered, wellFormed⟩
  · intro trusted
    obtain ⟨publicID, named, isID, resolved⟩ := trusted.clientID
    obtain ⟨nonempty, isURI⟩ := trusted.redirect
    rw [← Values.get_of_all isID] at named resolved
    refine ⟨(), ⟨trusted.short, trusted.utf8⟩, values, trusted.decoded, (),
      ⟨⟨⟨by rw [isID]; rfl, named⟩, by rw [isURI]; rfl⟩, nonempty⟩, client, resolved, (), ?_, rfl, rfl⟩
    exact Bool.and_eq_true_iff.mpr
      ⟨trusted.wellFormed, List.contains_iff_mem.mpr trusted.registered⟩

/-- A failure before the redirect URI is trusted stays with the issuer. -/
theorem trustRedirect_error : ∀ error,
    trustRedirect (registry urls allowLoopback db) rawQuery = .error error →
      error.safeToRedirect = false := by
  refine error_of_bind (error_of_ensure rfl) fun _ => error_of_bind (error_of_orError rfl) fun _ =>
    error_of_bind (error_of_ensure rfl) fun _ => error_of_bind ?_ fun _ =>
    error_of_bind (error_of_ensure rfl) fun _ => nofun
  intro error failed
  generalize AuthorizationClientResolver.resolveActive _ _ = resolved at failed
  cases resolved with
  | ok client => cases failed
  | error failure =>
    cases failed
    cases failure <;> rfl

end Request

/-- The state that goes back to the client is that of the request when it occurs once and is a valid
opaque value, and empty otherwise. -/
structure IsState (values : Values) (state : String) : Prop where
  kept : ∀ text, values.all "state" = [text] → Opaque text → state = text
  dropped : (∀ text, values.all "state" = [text] → ¬ Opaque text) → state = ""

theorem requestState_isState (values : Values) : IsState values (requestState values) := by
  refine ⟨fun text isText valid => ?_, fun invalid => ?_⟩
  · rw [requestState, isText, Values.get_of_all isText, validOpaqueParameter_iff.mpr valid]
    rfl
  · rw [requestState, if_neg]
    rw [Bool.and_eq_true, beq_iff_eq]
    rintro ⟨once, valid⟩
    exact invalid _ (Values.all_of_length once) (validOpaqueParameter_iff.mp valid)

/-- **The grammar of the authorization request.** A success and a redirectable error both need a client
and one of its redirect URIs, and carry that URI and the state of the request. The request succeeds
exactly when its other parameters are accepted too. -/
theorem authorization_request_grammar (urls : URLParser) (allowLoopback : Bool) (db : Db)
    (rawQuery : Octets) :
    (∀ verified, parseAuthorizationRequest (registry urls allowLoopback db) rawQuery = .ok verified →
      ∃ values, Trusted urls allowLoopback db rawQuery values verified.client verified.redirectURI ∧
        IsState values verified.state) ∧
    (∀ error, parseAuthorizationRequest (registry urls allowLoopback db) rawQuery = .error error →
      error.safeToRedirect →
      ∃ values client, Trusted urls allowLoopback db rawQuery values client error.redirectURI ∧
        IsState values error.state) ∧
    ((∃ verified,
        parseAuthorizationRequest (registry urls allowLoopback db) rawQuery = .ok verified) ↔
      ∃ values client redirectURI,
        Trusted urls allowLoopback db rawQuery values client redirectURI ∧ Accepted client values) := by
  refine ⟨fun verified parsed => ?_, fun error failed redirectable => ?_, ?_⟩
  · obtain ⟨⟨values, client⟩, trusted, accepted⟩ := Relational.bind_ok.mp parsed
    obtain ⟨-, _, _, _, -, -, -, rfl⟩ := parseTrusted_ok.mp accepted
    exact ⟨values, trustRedirect_ok.mp trusted, requestState_isState values⟩
  · rw [parseAuthorizationRequest] at failed
    cases trusted : trustRedirect (registry urls allowLoopback db) rawQuery with
    | error failure =>
      rw [trusted] at failed
      cases failed
      rw [trustRedirect_error _ trusted] at redirectable
      cases redirectable
    | ok found =>
      rw [trusted] at failed
      obtain ⟨code, rfl⟩ := parseTrusted_error error failed
      exact ⟨found.1, found.2, trustRedirect_ok.mp trusted, requestState_isState found.1⟩
  · constructor
    · rintro ⟨verified, parsed⟩
      obtain ⟨⟨values, client⟩, trusted, accepted⟩ := Relational.bind_ok.mp parsed
      exact ⟨values, client, _, trustRedirect_ok.mp trusted, (parseTrusted_ok.mp accepted).1⟩
    · rintro ⟨values, client, redirectURI, trusted, accepted⟩
      obtain ⟨verified, parsed⟩ := accepted.parses
      have isURI := Values.get_of_all trusted.redirect.2
      refine ⟨verified, Relational.bind_ok.mpr ⟨(values, client), trustRedirect_ok.mpr ?_, parsed⟩⟩
      rw [isURI]
      exact trusted

end OneIssuer.Oidc

namespace OneIssuer.Sample

open Wire Oidc

/-- Every text is the URL of the sample client. -/
def urls : URLParser where
  parse _ := some
    { scheme := "https", host := "client.example", hostname := "client.example", hasUser := false
      fragment := "", opaquePart := "" }
  loopback _ := false

/-- A request of the sample client, with more parameters. -/
def request (more : String) : Octets :=
  octets ("client_id=ois_cli_AAAAAAAAAAAAAAAAAAAAAAAAAAAAAAAA&redirect_uri=https://client.example/cb" ++
    "&response_type=code&scope=openid+profile&code_challenge_method=S256&code_challenge=" ++
    "AAAAAAAAAAAAAAAAAAAAAAAAAAAAAAAAAAAAAAAAAAA" ++ more)

/-- The age of a parsed request, or the code of its error. -/
def ageOf : Except AuthorizationError VerifiedAuthorizationRequest → Except ErrorCode (Option Nat)
  | .ok verified => .ok verified.maxAge
  | .error error => .error error.code

theorem ageOf_ok {outcome : Except AuthorizationError VerifiedAuthorizationRequest} {age : Option Nat}
    (parsed : ageOf outcome = .ok age) : ∃ verified, outcome = .ok verified := by
  cases outcome with
  | ok verified => exact ⟨verified, rfl⟩
  | error error => cases parsed

/-- The age that a request with these parameters is parsed to. -/
def parsedAge (more : String) : Except ErrorCode (Option Nat) :=
  ageOf (parseAuthorizationRequest (registry urls false clientCreated.after) (request more))

theorem hour_parsed : parsedAge "&max_age=3600" = .ok (some 3600) := by
  decide +kernel

end OneIssuer.Sample

namespace OneIssuer.Oidc

/-- A maximal age of an hour is accepted, and an empty nonce or an unrelated malformed parameter is
rejected, with the same other parameters. -/
theorem request_beyond_parameters :
    Sample.parsedAge "&max_age=3600" = .ok (some 3600) ∧
      Sample.parsedAge "&nonce=" = .error .invalidRequest ∧
      Sample.parsedAge "&unrelated=%zz" = .error .invalidRequest :=
  ⟨Sample.hour_parsed, by decide +kernel⟩

end OneIssuer.Oidc
