import OneIssuer.NetUrls
import OneIssuer.Oidc.Authorize
import OneIssuer.Wire.Reprint

/-!
# Redirects to the client

`BuildAuthorizationRedirect` merges an answer into the registered redirect URI: it decodes the query,
removes the parameters that belong to the answer, adds the answer, and encodes and prints the whole.

Decoding drops the segments of the query that do not parse, and printing changes the zone of an IPv6
address in ways that do not parse again. Registration accepts both.

`redirect_preserves_iff` says when the registered URI survives: exactly when its host can be printed and
no segment of its query is lost. `successRedirect_preserves_iff` and `errorRedirect_preserves_iff` are
its two uses.

**What it does not establish.** That the client decodes its query as `net/url` does.
-/

set_option autoImplicit false

namespace OneIssuer.Oidc

open Wire

/-- `reservedAuthorizationResponseParameters`. -/
def reservedAuthorizationResponseParameters : List Octets :=
  ["code", "error", "error_description", "error_uri", "state"].map octets

/-- The parameter belongs to the answer. -/
def isReserved (pair : Octets × Octets) : Bool :=
  reservedAuthorizationResponseParameters.contains pair.1

/-- `query.Set`. -/
def setValue (query : List (Octets × Octets)) (name value : Octets) : List (Octets × Octets) :=
  query.filter (·.1 != name) ++ [(name, value)]

/-- The loop over the answer: each parameter has one value and a name of the protocol. -/
def addResponse : List (Octets × List Octets) → List (Octets × Octets) → Option (List (Octets × Octets))
  | [], query => some query
  | (name, [value]) :: rest, query =>
    if name != octets "code" && name != octets "error" && name != octets "state" then none
    else addResponse rest (setValue query name value)
  | _ :: _, _ => none

/-- `BuildAuthorizationRedirect`. -/
def buildAuthorizationRedirect (registered : Octets) (response : List (Octets × List Octets)) :
    Option Octets :=
  match Url.parse registered with
  | none => none
  | some parsed =>
    if parsed.scheme == [] || parsed.host == [] || parsed.user.isSome || parsed.fragment != [] ||
        parsed.opaquePart != [] then none
    else
      (addResponse response ((queryPairs parsed.rawQuery).filter (!isReserved ·))).map fun query =>
        Url.string { parsed with rawQuery := encodeValues query }

/-- What the server answers with. -/
inductive Answer where
  | code (value : Octets)
  | error (code : ErrorCode)

/-- The parameter of an answer. -/
def Answer.parameter : Answer → Octets × Octets
  | .code value => (octets "code", value)
  | .error reason => (octets "error", octets reason.text)

/-- The parameters of an answer and the state of the request. -/
def responseParameters (answer : Answer) (state : Option Octets) : List (Octets × Octets) :=
  answer.parameter :: state.toList.map fun state => (octets "state", state)

/-- The `url.Values` of an answer. -/
def responseValues (answer : Answer) (state : Option Octets) : List (Octets × List Octets) :=
  (responseParameters answer state).map fun (name, value) => (name, [value])

/-- `BuildAuthorizationSuccessRedirect`. -/
def buildAuthorizationSuccessRedirect (registered code state : Octets) : Option Octets :=
  if code == [] || 256 < code.length || code.any (octets "\r\n\t ").contains then none
  else
    buildAuthorizationRedirect registered
      (responseValues (.code code) (if state == [] then none else some state))

/-- `BuildAuthorizationErrorRedirect`. -/
def buildAuthorizationErrorRedirect (error : AuthorizationError) : Option Octets :=
  if !error.safeToRedirect || error.redirectURI == "" then none
  else
    buildAuthorizationRedirect (octets error.redirectURI)
      (responseValues (.error error.code) (if error.state == "" then none else some (octets error.state)))

/-! ## What is preserved -/

/-- The redirect is parsed to the scheme, host and path of the registered URI, and the pairs of its
query are those of the registered URI that are not reserved and those of the answer. -/
def Preserved (registered : Octets) (answer : List (Octets × Octets)) (redirect : Octets) : Prop :=
  ∃ before after, Url.parse registered = some before ∧ Url.parse redirect = some after ∧
    after.scheme = before.scheme ∧ after.host = before.host ∧ after.path = before.path ∧
    (formPairs after.rawQuery).Perm ((formPairs before.rawQuery).filter (!isReserved ·) ++ answer)

/-- Every segment that does not parse has a reserved name. -/
def LosesNothing (query : Octets) : Prop :=
  ∀ segment ∈ segments query, parsePair segment = none → isReserved (formPair segment)

instance (query : Octets) : Decidable (LosesNothing query) :=
  inferInstanceAs (Decidable (∀ segment ∈ segments query, _ → _))

/-! ## The query -/

section Query

variable {answer : Answer} {state : Option Octets}

/-- The pairs of a list that parse, and all its pairs. -/
theorem filter_filterMap_le (list : List Octets) :
    ((list.filterMap parsePair).filter (!isReserved ·)).length ≤
      ((list.map formPair).filter (!isReserved ·)).length := by
  induction list with
  | nil => exact Nat.le_refl _
  | cons segment rest ih =>
    cases parsed : parsePair segment with
    | none =>
      rw [List.filterMap_cons_none parsed, List.map_cons]
      exact ih.trans (List.Sublist.length_le ((List.sublist_cons_self _ _).filter _))
    | some pair =>
      rw [List.filterMap_cons_some parsed, List.map_cons, formPair_of_parsePair parsed]
      by_cases reserved : isReserved pair
      · simpa [reserved] using ih
      · simpa [reserved] using ih

/-- They have the same pairs left when nothing is lost. -/
theorem filter_filterMap_eq {list : List Octets}
    (lossless : ∀ segment ∈ list, parsePair segment = none → isReserved (formPair segment)) :
    (list.filterMap parsePair).filter (!isReserved ·) = (list.map formPair).filter (!isReserved ·) := by
  induction list with
  | nil => rfl
  | cons segment rest ih =>
    obtain ⟨first, others⟩ := List.forall_mem_cons.mp lossless
    cases parsed : parsePair segment with
    | none =>
      rw [List.filterMap_cons_none parsed, List.map_cons, List.filter_cons, first parsed, ih others]
      rfl
    | some pair =>
      rw [List.filterMap_cons_some parsed, List.map_cons, formPair_of_parsePair parsed,
        List.filter_cons, List.filter_cons, ih others]

theorem length_lt_of_lost {list : List Octets} {segment : Octets} (member : segment ∈ list)
    (dropped : parsePair segment = none) (kept : isReserved (formPair segment) = false) :
    ((list.filterMap parsePair).filter (!isReserved ·)).length <
      ((list.map formPair).filter (!isReserved ·)).length := by
  obtain ⟨before, after, rfl⟩ := List.append_of_mem member
  have left := filter_filterMap_le before
  have right := filter_filterMap_le after
  simp only [List.filterMap_append, List.filterMap_cons, dropped, List.map_append, List.map_cons,
    List.filter_append, List.filter_cons, kept, Bool.not_false, if_true, List.length_append,
    List.length_cons]
  omega

theorem setValue_of_absent {query : List (Octets × Octets)} {name : Octets} (value : Octets)
    (absent : ∀ pair ∈ query, pair.1 ≠ name) : setValue query name value = query ++ [(name, value)] := by
  rw [setValue, List.filter_eq_self.mpr]
  intro pair member
  exact bne_iff_ne.mpr (absent pair member)

theorem Answer.parameter_name (answer : Answer) :
    answer.parameter.1 = octets "code" ∨ answer.parameter.1 = octets "error" := by
  cases answer with
  | code value => exact .inl rfl
  | error reason => exact .inr rfl

/-- The answer is added to what is left. -/
theorem addResponse_values {query : List (Octets × Octets)}
    (unreserved : ∀ pair ∈ query, isReserved pair = false) :
    addResponse (responseValues answer state) query = some (query ++ responseParameters answer state) := by
  have absent : ∀ name ∈ reservedAuthorizationResponseParameters, ∀ pair ∈ query, pair.1 ≠ name := by
    rintro name reserved pair member rfl
    have isReserved := unreserved pair member
    rw [Oidc.isReserved, List.contains_eq_mem, decide_eq_false_iff_not] at isReserved
    exact isReserved reserved
  have reserved : answer.parameter.1 ∈ reservedAuthorizationResponseParameters := by
    rcases answer.parameter_name with isName | isName
    · rw [isName]
      decide
    · rw [isName]
      decide
  have named : (answer.parameter.1 != octets "code" && answer.parameter.1 != octets "error" &&
      answer.parameter.1 != octets "state") = false := by
    rcases answer.parameter_name with isName | isName
    · rw [isName]
      decide
    · rw [isName]
      decide
  cases state with
  | none =>
    simp only [responseValues, responseParameters, Option.toList_none, List.map_nil, List.map_cons,
      addResponse, named, Bool.false_eq_true, if_false,
      setValue_of_absent answer.parameter.2 (absent _ reserved)]
  | some state =>
    have stateAbsent : ∀ pair ∈ query ++ [(answer.parameter.1, answer.parameter.2)],
        pair.1 ≠ octets "state" := by
      intro pair member
      rcases List.mem_append.mp member with member | member
      · exact absent _ (by decide) pair member
      · rw [List.mem_singleton.mp member]
        rcases answer.parameter_name with isName | isName
        · rw [isName]
          decide
        · rw [isName]
          decide
    have stateNamed : (octets "state" != octets "code" && octets "state" != octets "error" &&
        octets "state" != octets "state") = false := by decide
    simp only [responseValues, responseParameters, Option.toList_some, List.map_nil, List.map_cons,
      addResponse, named, stateNamed, Bool.false_eq_true, if_false,
      setValue_of_absent answer.parameter.2 (absent _ reserved), setValue_of_absent state stateAbsent,
      List.append_assoc, List.singleton_append]

end Query

/-! ## The redirect -/

theorem plainScheme_https : PlainScheme (octets "https") where
  named := by decide
  lower := by decide
  single := by decide
  printable := List.all_iff_forall_prop.mp (by decide)
  read rest := rfl

theorem plainScheme_http : PlainScheme (octets "http") where
  named := by decide
  lower := by decide
  single := by decide
  printable := List.all_iff_forall_prop.mp (by decide)
  read rest := rfl

/-- The redirect that is built for an accepted URI preserves it exactly when nothing of it is lost. -/
theorem buildAuthorizationRedirect_preserves {allowLoopback : Bool} {registered : String}
    (answer : Answer) (state : Option Octets) (accepted : validateURI netURLs allowLoopback registered) :
    (∃ redirect, buildAuthorizationRedirect (octets registered) (responseValues answer state) =
        some redirect ∧ Preserved (octets registered) (responseParameters answer state) redirect) ↔
      ∃ url, Url.parse (octets registered) = some url ∧ Reprintable url.host ∧
        LosesNothing url.rawQuery := by
  obtain ⟨_, url, isUrl, registrable⟩ := validateURI_iff.mp accepted
  have scheme : PlainScheme url.scheme := by
    rcases registrable.scheme with isScheme | ⟨isScheme, _⟩
    · exact isScheme ▸ plainScheme_https
    · exact isScheme ▸ plainScheme_http
  obtain ⟨layout, _, whole, printable⟩ :=
    Url.exists_layout isUrl scheme.named registrable.host registrable.user registrable.fragment
  let kept := (queryPairs url.rawQuery).filter (!isReserved ·)
  let pairs := kept ++ responseParameters answer state
  have built : buildAuthorizationRedirect (octets registered) (responseValues answer state) =
      some (Url.string { url with rawQuery := encodeValues pairs }) := by
    have unreserved : ∀ pair ∈ kept, isReserved pair = false := by
      intro pair member
      simpa using (List.mem_filter.mp member).2
    rw [buildAuthorizationRedirect, isUrl]
    simp only [scheme.named, registrable.host, registrable.user, registrable.fragment,
      registrable.opaquePart, beq_iff_eq, bne_self_eq_false, Option.isSome_none, Bool.or_false,
      Bool.or_eq_true, or_self, if_false]
    rw [addResponse_values unreserved]
    rfl
  have nonempty : pairs ≠ [] := by simp [pairs, responseParameters]
  obtain ⟨after, sameScheme, sameHost, samePath, isQuery, reparsed⟩ :=
    layout.parse_string whole printable scheme (encodeValues_ne_nil nonempty) (encodeValues_plain pairs)
  have answered : (formPairs after.rawQuery).Perm (kept ++ responseParameters answer state) := by
    rw [isQuery]
    exact formPairs_encodeValues pairs
  constructor
  · rintro ⟨redirect, isRedirect, before, found, isBefore, isFound, _, _, _, perm⟩
    cases isUrl.symm.trans isBefore
    cases built.symm.trans isRedirect
    rw [reparsed] at isFound
    by_cases printed : Reprintable url.host
    · rw [if_pos printed] at isFound
      cases isFound
      refine ⟨url, isUrl, printed, ?_⟩
      intro segment member dropped
      by_contra unreserved
      have fewer : kept.length < ((formPairs url.rawQuery).filter (!isReserved ·)).length :=
        length_lt_of_lost member dropped (by simpa using unreserved)
      have same := (answered.symm.trans perm).length_eq
      rw [List.length_append, List.length_append] at same
      omega
    · rw [if_neg printed] at isFound
      cases isFound
  · rintro ⟨found, isFound, printed, lossless⟩
    cases isUrl.symm.trans isFound
    rw [if_pos printed] at reparsed
    refine ⟨_, built, url, after, isUrl, reparsed, sameScheme, sameHost, samePath, ?_⟩
    have same : kept = (formPairs url.rawQuery).filter (!isReserved ·) := filter_filterMap_eq lossless
    rwa [← same]

/-- A code that can be sent is added to the registered URI in the same way. -/
theorem successRedirect_preserves_iff {allowLoopback : Bool} {registered : String} {code state : Octets}
    (accepted : validateURI netURLs allowLoopback registered) (isCode : code ≠ [] ∧ code.length ≤ 256)
    (plain : code.any (octets "\r\n\t ").contains = false) :
    (∃ redirect, buildAuthorizationSuccessRedirect (octets registered) code state = some redirect ∧
        Preserved (octets registered)
          (responseParameters (.code code) (if state == [] then none else some state)) redirect) ↔
      ∃ url, Url.parse (octets registered) = some url ∧ Reprintable url.host ∧
        LosesNothing url.rawQuery := by
  have sendable : (code == [] || decide (256 < code.length) || code.any (octets "\r\n\t ").contains) =
      false := by
    simp [isCode.1, isCode.2, plain]
  rw [buildAuthorizationSuccessRedirect, sendable]
  exact buildAuthorizationRedirect_preserves _ _ accepted

/-- So is the reason of an error that may be redirected. -/
theorem errorRedirect_preserves_iff {allowLoopback : Bool} {error : AuthorizationError}
    (accepted : validateURI netURLs allowLoopback error.redirectURI) (safe : error.safeToRedirect) :
    (∃ redirect, buildAuthorizationErrorRedirect error = some redirect ∧
        Preserved (octets error.redirectURI) (responseParameters (.error error.code)
          (if error.state == "" then none else some (octets error.state))) redirect) ↔
      ∃ url, Url.parse (octets error.redirectURI) = some url ∧ Reprintable url.host ∧
        LosesNothing url.rawQuery := by
  have given : error.redirectURI ≠ "" := by
    intro isEmpty
    rw [isEmpty] at accepted
    cases accepted
  have redirectable : (!error.safeToRedirect || error.redirectURI == "") = false := by
    simp [safe, given]
  rw [buildAuthorizationErrorRedirect, redirectable]
  exact buildAuthorizationRedirect_preserves _ _ accepted

end OneIssuer.Oidc
