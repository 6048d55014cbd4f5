import OneIssuer.NetUrls

/-!
# The logout redirect

After a confirmed logout the browser goes to the registered URI with the `state` of the request
appended. The builder looks for a question mark in the text; registration has looked at the parsed
URL, which does not say whether the text ended with an empty fragment. With one, the state becomes a
part of the fragment.

**What it does not establish.** Where the browser goes: the result is about the text and its parts in
RFC 3986.
-/

set_option autoImplicit false

namespace OneIssuer.Logout

open Wire

/-- `hasDecodedStateKey`. -/
def hasDecodedStateKey (rawURI : Octets) : Bool :=
  match Url.parse rawURI with
  | none => true
  | some parsed =>
    if parsed.fragment != [] then true
    else
      match parseQuery parsed.rawQuery with
      | none => true
      | some values => values.any (·.1 == octets "state")

/-- `appendState`. -/
def appendState (rawURI state : Octets) : Octets :=
  if state == [] then rawURI
  else
    let separator := if rawURI.contains 63 then 38 else 63
    rawURI ++ separator :: octets "state=" ++ queryEscape state

/-- The reference with the state appended is the one of the URI, with one more pair in its query. -/
structure StateAppended (uri state : Octets) : Prop where
  scheme : (Reference.parse (appendState uri state)).scheme = (Reference.parse uri).scheme
  authority : (Reference.parse (appendState uri state)).authority = (Reference.parse uri).authority
  path : (Reference.parse (appendState uri state)).path = (Reference.parse uri).path
  fragment : (Reference.parse (appendState uri state)).fragment.getD [] = [] ∧
    (Reference.parse uri).fragment.getD [] = []
  query : ∃ pairs, parseQuery ((Reference.parse uri).query.getD []) = some pairs ∧
    (∀ pair ∈ pairs, pair.1 ≠ octets "state") ∧
    parseQuery ((Reference.parse (appendState uri state)).query.getD []) =
      some (pairs ++ [(octets "state", state)])
  start : uri <+: appendState uri state

/-! ## The appended pair -/

section Pair

variable (state : Octets)

/-- The segment of the state has none of the delimiters. -/
theorem segment_plain {octet : UInt8} (delimiter : octet ∈ octets "#&;?") :
    octet ∉ octets "state=" ++ queryEscape state := by
  rw [List.mem_append, not_or]
  have apart : ∀ octet ∈ octets "#&;?", octet ∉ octets "state=" ∧
      ¬(isAlphanumeric octet ∨ octet ∈ octets "-_.~+%") := List.all_iff_forall_prop.mp (by decide)
  exact ⟨(apart octet delimiter).1, fun member => (apart octet delimiter).2 (mem_queryEscape member)⟩

theorem parsePair_state :
    parsePair (octets "state=" ++ queryEscape state) = some (octets "state", state) := by
  have noSemicolon : (octets "state=" ++ queryEscape state).contains 59 = false := by
    simpa using segment_plain state (by decide)
  have isName : queryUnescape (octets "state") = some (octets "state") := by decide
  have key : (octets "state=" ++ queryEscape state).takeWhile (· != 61) = octets "state" := rfl
  have value : ((octets "state=" ++ queryEscape state).dropWhile (· != 61)).drop 1 =
      queryEscape state := rfl
  rw [parsePair, noSemicolon, key, value, isName, queryUnescape_queryEscape]
  rfl

theorem parseQuery_state :
    parseQuery (octets "state=" ++ queryEscape state) = some [(octets "state", state)] := by
  have noAmpersand : 38 ∉ octets "state=" ++ queryEscape state := segment_plain state (by decide)
  have whole := splitOn_of_not_mem noAmpersand
  have nonempty : (octets "state=" ++ queryEscape state).isEmpty = false := rfl
  simp only [parseQuery, whole, List.filter_cons, nonempty, Bool.not_false, if_true, List.filter_nil,
    List.mapM_cons, List.mapM_nil, parsePair_state state]
  rfl

/-- A query with the segment at its end has the pair of the state at its end. -/
theorem parseQuery_append {query : Octets} {pairs : List (Octets × Octets)}
    (parsed : parseQuery query = some pairs) :
    parseQuery (query ++ 38 :: (octets "state=" ++ queryEscape state)) =
      some (pairs ++ [(octets "state", state)]) := by
  have last := parseQuery_state state
  rw [parseQuery] at parsed last ⊢
  rw [List.splitOn_append_cons_self, List.filter_append, List.mapM_append, parsed, last]
  rfl

end Pair

/-! ## The redirect -/

section Appended

variable {uri state : Octets}

theorem appendState_eq (nonempty : state ≠ []) :
    appendState uri state =
      uri ++ (if 63 ∈ uri then 38 else 63) :: (octets "state=" ++ queryEscape state) := by
  simp [appendState, nonempty]

/-- Without a fragment the state is appended to the query. -/
theorem cutOptional_appendState (nonempty : state ≠ []) :
    cutOptional 63 (appendState uri state) =
      ((cutOptional 63 uri).1, some (match (cutOptional 63 uri).2 with
        | none => octets "state=" ++ queryEscape state
        | some query => query ++ 38 :: (octets "state=" ++ queryEscape state))) := by
  obtain ⟨isUri, absent⟩ := text_cutOptional 63 uri
  rw [appendState_eq nonempty]
  generalize cutOptional 63 uri = parts at isUri absent
  obtain ⟨before, query⟩ := parts
  simp only at isUri absent ⊢
  subst isUri
  cases query with
  | none =>
    simp only [optionalText, List.append_nil, if_neg absent]
    exact cutOptional_text (some _) absent
  | some query =>
    have member : 63 ∈ before ++ optionalText 63 (some query) := by simp [optionalText]
    rw [if_pos member, List.append_assoc]
    exact cutOptional_text (some (query ++ 38 :: (octets "state=" ++ queryEscape state))) absent

theorem not_mem_appendState (nonempty : state ≠ []) (absent : 35 ∉ uri) :
    35 ∉ appendState uri state := by
  rw [appendState_eq nonempty, List.mem_append, List.mem_cons, not_or, not_or]
  refine ⟨absent, ?_, segment_plain state (by decide)⟩
  split <;> decide

theorem stateAppended_of_whole {pairs : List (Octets × Octets)} (nonempty : state ≠ [])
    (absent : 35 ∉ uri) (parsed : parseQuery ((Reference.parse uri).query.getD []) = some pairs)
    (unkeyed : ∀ pair ∈ pairs, pair.1 ≠ octets "state") : StateAppended uri state := by
  have before := Reference.parse_whole absent
  have after := Reference.parse_whole (not_mem_appendState nonempty absent)
  rw [cutOptional_appendState nonempty] at after
  rw [before] at parsed
  refine ⟨?_, ?_, ?_, ⟨?_, ?_⟩, ⟨pairs, ?_, unkeyed, ?_⟩, ?_⟩
  · rw [before, after]
  · rw [before, after]
  · rw [before, after]
  · rw [after, Option.getD_none]
  · rw [before, Option.getD_none]
  · rw [before, parsed]
  · rw [after]
    cases isQuery : (cutOptional 63 uri).2 with
    | none =>
      rw [isQuery] at parsed
      cases parsed
      exact parseQuery_state state
    | some query =>
      rw [isQuery] at parsed
      exact parseQuery_append state parsed
  · rw [appendState_eq nonempty]
    exact List.prefix_append ..

/-- After an empty fragment the state is a fragment. -/
theorem not_stateAppended_of_fragment {body : Octets} (nonempty : state ≠ []) (absent : 35 ∉ body) :
    ¬StateAppended (body ++ [35]) state := by
  intro appended
  have empty := appended.fragment.1
  rw [Reference.parse, appendState_eq nonempty, List.append_assoc, List.singleton_append,
    cutOptional, cut_eq_some.mpr ⟨rfl, absent⟩] at empty
  cases empty

end Appended

/-- The state of an accepted URI without a key of that name is appended to its query exactly when the
URI has no number sign. -/
theorem state_appended_iff (allowLoopback : Bool) (uri : String) (state : Octets)
    (accepted : validateURI netURLs allowLoopback uri) (nonempty : state ≠ [])
    (unkeyed : hasDecodedStateKey (octets uri) = false) :
    StateAppended (octets uri) state ↔ 35 ∉ octets uri := by
  obtain ⟨_, url, isUrl, registrable⟩ := validateURI_iff.mp accepted
  have named : url.scheme ≠ [] := by
    rcases registrable.scheme with isScheme | ⟨isScheme, _⟩
    · rw [isScheme]
      decide
    · rw [isScheme]
      decide
  obtain ⟨layout, isText, absent, _⟩ :=
    Url.exists_layout isUrl named registrable.host registrable.user registrable.fragment
  rcases isText with isText | isText
  · rw [isText] at isUrl unkeyed ⊢
    refine iff_of_true ?_ absent
    simp only [hasDecodedStateKey, isUrl, registrable.fragment, bne_self_eq_false,
      Bool.false_eq_true, if_false] at unkeyed
    split at unkeyed
    · cases unkeyed
    · rename_i pairs parsed
      have parsedQuery : parseQuery ((Reference.parse layout.text).query.getD []) = some pairs := by
        rw [layout.reference_query absent, layout.query_raw, parsed]
      exact stateAppended_of_whole nonempty absent parsedQuery (by simpa using unkeyed)
  · rw [isText]
    exact iff_of_false (not_stateAppended_of_fragment nonempty absent) (by simp)

/-- An accepted URI with an empty fragment, and the redirect for it: the state is the fragment. -/
theorem state_lost_in_fragment :
    validateURI netURLs false "https://rp.example/out#" ∧
      hasDecodedStateKey (octets "https://rp.example/out#") = false ∧
      appendState (octets "https://rp.example/out#") (octets "s1") =
        octets "https://rp.example/out#?state=s1" ∧
      Reference.parse (octets "https://rp.example/out#?state=s1") =
        ⟨some (octets "https"), some (octets "rp.example"), octets "/out", none,
          some (octets "?state=s1")⟩ := by
  decide +kernel

/-- A URI with a query keeps its pairs. -/
theorem state_appended_to_query :
    StateAppended (octets "https://rp.example/out?from=a&from=b") (octets "s1 &") :=
  (state_appended_iff false "https://rp.example/out?from=a&from=b" (octets "s1 &")
    (by decide +kernel) (by decide) (by decide +kernel)).mpr (by decide)

end OneIssuer.Logout
