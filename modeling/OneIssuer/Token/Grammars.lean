import Mathlib.Data.Bool.AllAny
import OneIssuer.Browser.Services
import OneIssuer.Token.Acceptance
import OneIssuer.Token.Mint

/-!
# The grammars of presented tokens

Refresh tokens and authorization codes are 32 random bytes in URL-safe base64, after a mark of three
characters. The decoder skips line ends, and it refuses bits left over; with the length of the whole text
fixed, there is no room for a line end, and each grammar is exactly what its generator writes.

The third form is the compact one of a signed access token, which has two dots. Its scope claim is a
canonical scope set with one space between the scopes; `scope_algebra` says what the operations on such
sets are.

**What it does not establish.** That the bytes of a token are random, and that a text of the right form
was ever issued.
-/

set_option autoImplicit false

namespace OneIssuer.Token

/-- `DigestPresentedCode`. -/
def digestPresentedCode (sha : Sha256) (clearCode : String) : Option Bytes :=
  if clearCode.utf8ByteSize != 46 || clearCode.utf8ByteSize < 3 ||
      !"c1_".toList.isPrefixOf clearCode.toList then none
  else if decodedLength (clearCode.toList.drop 3) != some 32 then none
  else some (sha.sum ("oneissuer:authorization-code:v1:" ++ clearCode))

/-! ## Marked texts -/

section Marked

variable {mark text : String}

/-- The text has the mark, the size and the decoded length that both grammars ask for. -/
structure Marked (mark text : String) : Prop where
  size : text.utf8ByteSize = 46
  marked : mark.toList <+: text.toList
  decoded : decodedLength (text.toList.drop 3) = some 32

/-- A text of `n` characters, of which the decoder reads `n` values, is written in the alphabet. -/
theorem encoded_of_decodedLength {rest : List Char} {count : Nat} (decoded : decodedLength rest = some count)
    (size : rest.length ≤ (count * 4 + 2) / 3) :
    ∃ bytes : Bytes, bytes.length = count ∧ encodeRawURL bytes = rest := by
  obtain ⟨values, areValues, isLength⟩ := Option.bind_eq_some_iff.mp decoded
  obtain ⟨small, isText⟩ := base64Values_some areValues
  have valuesLength := length_of_strictLength isLength
  rw [strictLength_eq] at isLength
  obtain ⟨bytes, isBytes, bytesLength⟩ := Option.map_eq_some_iff.mp isLength
  -- every character counts, so none was skipped
  have nothingSkipped : rest.filter (fun c => c != '\r' && c != '\n') = rest := by
    refine List.filter_sublist.eq_of_length_le ?_
    rw [isText, List.length_map]
    omega
  refine ⟨bytes, bytesLength, ?_⟩
  rw [encodeRawURL_strictBytes small isBytes, ← isText, nothingSkipped]

theorem marked_iff (three : mark.toList.length = 3) (ascii : ∀ c ∈ mark.toList, c.utf8Size = 1) :
    Marked mark text ↔ ∃ random : RandomBytes 32, mark ++ String.ofList (encodeRawURL random.1) = text := by
  constructor
  · intro isMarked
    obtain ⟨rest, isText⟩ := isMarked.marked
    have size : text.utf8ByteSize = mark.utf8ByteSize + (String.ofList rest).utf8ByteSize := by
      rw [← String.utf8ByteSize_append, ← String.ofList_toList (s := text), ← isText, String.ofList_append,
        String.ofList_toList]
    have markSize : mark.utf8ByteSize = 3 := by
      rw [← String.ofList_toList (s := mark), utf8ByteSize_of_ascii ascii, three]
    have restSize := length_le_utf8ByteSize rest
    have decoded := isMarked.decoded
    rw [isMarked.size] at size
    rw [← isText, List.drop_append_of_le_length three.ge, List.drop_eq_nil_of_le three.le,
      List.nil_append] at decoded
    obtain ⟨bytes, length, isRest⟩ := encoded_of_decodedLength decoded (by omega)
    refine ⟨⟨bytes, length⟩, ?_⟩
    rw [isRest, ← String.ofList_toList (s := text), ← isText, String.ofList_append, String.ofList_toList]
  · rintro ⟨random, rfl⟩
    have isText : (mark ++ String.ofList (encodeRawURL random.1)).toList =
        mark.toList ++ encodeRawURL random.1 := by simp
    refine ⟨?_, ?_, ?_⟩
    · rw [String.utf8ByteSize_append, utf8ByteSize_of_ascii (encodeRawURL_ascii random.1),
        length_encodeRawURL, random.2, ← String.ofList_toList (s := mark), utf8ByteSize_of_ascii ascii, three]
    · rw [isText]
      exact List.prefix_append _ _
    · rw [isText, List.drop_append_of_le_length three.ge, List.drop_eq_nil_of_le three.le, List.nil_append,
        decodedLength_encodeRawURL, random.2]

/-- One array is written in one way. -/
theorem marked_inj {left right : RandomBytes 32}
    (same : mark ++ String.ofList (encodeRawURL left.1) = mark ++ String.ofList (encodeRawURL right.1)) :
    left = right := by
  have texts : encodeRawURL left.1 = encodeRawURL right.1 := by
    simpa using congrArg String.toList same
  have bytes := decodeRawURL_encodeRawURL left.1
  rw [texts, decodeRawURL_encodeRawURL] at bytes
  exact Subtype.ext (Option.some.inj bytes).symm

/-- The array of a marked text, and the text of the array. -/
theorem Marked.decodes (three : mark.toList.length = 3) (ascii : ∀ c ∈ mark.toList, c.utf8Size = 1)
    (isMarked : Marked mark text) : ∃ random : RandomBytes 32,
      decodeRawURL (text.toList.drop 3) = some random.1 ∧
        mark ++ String.ofList (encodeRawURL random.1) = text := by
  obtain ⟨random, rfl⟩ := (marked_iff three ascii).mp isMarked
  refine ⟨random, ?_, rfl⟩
  rw [String.toList_append, String.toList_ofList, List.drop_append_of_le_length three.ge,
    List.drop_eq_nil_of_le three.le, List.nil_append, decodeRawURL_encodeRawURL]

theorem Marked.no_dot (three : mark.toList.length = 3) (undotted : '.' ∉ mark.toList)
    (isMarked : Marked mark text) : '.' ∉ text.toList := by
  obtain ⟨rest, isText⟩ := isMarked.marked
  have decoded := isMarked.decoded
  rw [← isText, List.drop_append_of_le_length three.ge, List.drop_eq_nil_of_le three.le,
    List.nil_append] at decoded
  rw [← isText, List.mem_append, not_or]
  refine ⟨undotted, fun dotted => ?_⟩
  have inAlphabet := mem_alphabet_of_decoded decoded dotted (by decide) (by decide)
  revert inAlphabet
  decide

end Marked

/-! ## The grammars -/

section Grammars

variable {sha : Sha256} {text : String}

theorem marked_checks {mark : String} :
    Marked mark text ↔ text.utf8ByteSize = 46 ∧ mark.toList.isPrefixOf text.toList = true ∧
      decodedLength (text.toList.drop 3) = some 32 := by
  constructor
  · intro isMarked
    exact ⟨isMarked.size, List.isPrefixOf_iff_prefix.mpr isMarked.marked, isMarked.decoded⟩
  · rintro ⟨size, marked, decoded⟩
    exact ⟨size, List.isPrefixOf_iff_prefix.mp marked, decoded⟩

theorem digestPresentedRefreshToken_isSome :
    (digestPresentedRefreshToken sha text).isSome ↔ Marked "r1_" text := by
  rw [marked_checks, digestPresentedRefreshToken]
  generalize "r1_".toList.isPrefixOf text.toList = marked
  by_cases size : text.utf8ByteSize = 46
  · by_cases decoded : decodedLength (text.toList.drop 3) = some 32
    · cases marked <;> simp [size, decoded]
    · simp [size, decoded]
  · simp [size]

theorem digestPresentedCode_isSome : (digestPresentedCode sha text).isSome ↔ Marked "c1_" text := by
  rw [marked_checks, digestPresentedCode]
  generalize "c1_".toList.isPrefixOf text.toList = marked
  by_cases size : text.utf8ByteSize = 46
  · by_cases decoded : decodedLength (text.toList.drop 3) = some 32
    · cases marked <;> simp [size, decoded]
    · simp [size, decoded]
  · simp [size]

/-- A grammar accepts exactly what its generator writes, each text from one array. -/
theorem generated_iff {mark : String} (three : mark.toList.length = 3)
    (ascii : ∀ c ∈ mark.toList, c.utf8Size = 1) :
    Marked mark text ↔
      ∃! random : RandomBytes 32, mark ++ String.ofList (encodeRawURL random.1) = text := by
  rw [marked_iff three ascii]
  constructor
  · rintro ⟨random, isText⟩
    exact ⟨random, isText, fun other isOther => marked_inj (isOther.trans isText.symm)⟩
  · exact fun unique => unique.exists

/-- Two texts of one grammar that decode to the same array are the same. -/
theorem Marked.decode_inj {mark left right : String} (three : mark.toList.length = 3)
    (ascii : ∀ c ∈ mark.toList, c.utf8Size = 1) (isLeft : Marked mark left) (isRight : Marked mark right)
    (same : decodeRawURL (left.toList.drop 3) = decodeRawURL (right.toList.drop 3)) : left = right := by
  obtain ⟨leftBytes, leftDecoded, rfl⟩ := isLeft.decodes three ascii
  obtain ⟨rightBytes, rightDecoded, rfl⟩ := isRight.decodes three ascii
  rw [leftDecoded, rightDecoded] at same
  rw [Option.some.inj same]

end Grammars

/-- The grammars of refresh tokens and of codes are exact, and no text has two of the three forms. -/
theorem presented_grammars (sha : Sha256) :
    (∀ text, (digestPresentedRefreshToken sha text).isSome ↔
      ∃! random : RandomBytes 32, generateRefreshToken random = text) ∧
    (∀ text, (digestPresentedCode sha text).isSome ↔
      ∃! random : RandomBytes 32, Browser.newCode random = text) ∧
    (∀ left right, (digestPresentedRefreshToken sha left).isSome →
      (digestPresentedRefreshToken sha right).isSome → left ≠ right →
        decodeRawURL (left.toList.drop 3) ≠ decodeRawURL (right.toList.drop 3)) ∧
    (∀ left right, (digestPresentedCode sha left).isSome → (digestPresentedCode sha right).isSome →
      left ≠ right → decodeRawURL (left.toList.drop 3) ≠ decodeRawURL (right.toList.drop 3)) ∧
    ∀ text, ¬ ((digestPresentedRefreshToken sha text).isSome ∧ (digestPresentedCode sha text).isSome) ∧
      ¬ ((digestPresentedRefreshToken sha text).isSome ∧ text.toList.count '.' = 2) ∧
      ¬ ((digestPresentedCode sha text).isSome ∧ text.toList.count '.' = 2) := by
  simp only [digestPresentedRefreshToken_isSome, digestPresentedCode_isSome]
  have refreshAscii : ∀ c ∈ "r1_".toList, c.utf8Size = 1 := List.all_iff_forall_prop.mp (by decide)
  have codeAscii : ∀ c ∈ "c1_".toList, c.utf8Size = 1 := List.all_iff_forall_prop.mp (by decide)
  refine ⟨fun text => generated_iff rfl refreshAscii, fun text => generated_iff rfl codeAscii, ?_, ?_, ?_⟩
  · intro left right isLeft isRight differ same
    exact differ (isLeft.decode_inj rfl refreshAscii isRight same)
  · intro left right isLeft isRight differ same
    exact differ (isLeft.decode_inj rfl codeAscii isRight same)
  · intro text
    refine ⟨?_, ?_, ?_⟩
    · rintro ⟨refresh, code⟩
      have sameMark := List.prefix_of_prefix_length_le refresh.marked code.marked (by decide)
      revert sameMark
      decide
    · rintro ⟨refresh, dots⟩
      have none := List.count_eq_zero.mpr (refresh.no_dot rfl (by decide))
      omega
    · rintro ⟨code, dots⟩
      have none := List.count_eq_zero.mpr (code.no_dot rfl (by decide))
      omega

theorem presented_grammars_zeros :
    (digestPresentedRefreshToken Sample.sha (Sample.refreshText 'A')).isSome ∧
      ∃! random : RandomBytes 32, generateRefreshToken random = Sample.refreshText 'A' := by
  have accepted : (digestPresentedRefreshToken Sample.sha (Sample.refreshText 'A')).isSome := by
    decide +kernel
  exact ⟨accepted, ((presented_grammars Sample.sha).1 _).mp accepted⟩

/-! ## Scope claims -/

section Scopes

open OneIssuer.Consent

/-- A canonical scope set is sorted. -/
theorem canonical_sorted {scopes result : List String} (canonical : canonicalScopes scopes = some result) :
    result.Pairwise (· < ·) := by
  obtain ⟨⟨nodup, -⟩, rfl⟩ := canonicalScopes_iff.mp canonical
  have distinct : (sortStrings scopes).Nodup := (sortStrings_perm scopes).nodup_iff.mpr nodup
  exact (sortStrings_pairwise scopes).imp₂ (fun _ _ le ne => lt_of_le_of_ne le ne) distinct

/-- The claim of a canonical scope set is read back as the set. -/
theorem parseScopeClaim_canonical {scopes result : List String}
    (canonical : canonicalScopes scopes = some result) :
    parseScopeClaim (" ".intercalate result) = some result := by
  have sorted := canonical_sorted canonical
  obtain ⟨⟨-, allSupported, openid⟩, rfl⟩ := canonicalScopes_iff.mp canonical
  have listed := sublist_of_sorted sorted fun scope member => allSupported scope (mem_sortStrings.mp member)
  exact parseScopeClaim_listed _ listed (mem_sortStrings.mpr openid)

/-- A claim that is read is the text of what was read. -/
theorem eq_of_parseScopeClaim {raw : String} {scopes : List String}
    (parsed : parseScopeClaim raw = some scopes) : raw = " ".intercalate scopes := by
  rw [parseScopeClaim] at parsed
  split at parsed
  · cases parsed
  · obtain ⟨-, same⟩ := Option.filter_eq_some_iff.mp parsed
    exact (beq_iff_eq.mp same).symm

end Scopes

/-- The operations of the consent package are those of sets of supported scopes, and a scope claim is the
text of one such set. -/
theorem scope_algebra (a b c : List String) (raw : String) :
    ((Consent.canonicalScopes a).isSome ↔
      a.Nodup ∧ "openid" ∈ a ∧ ∀ scope ∈ a, Consent.supported scope) ∧
    (∀ result, Consent.canonicalScopes a = some result → result.Perm a ∧ result.Pairwise (· < ·)) ∧
    ((Consent.union a b).Pairwise (· < ·) ∧
      ∀ scope, scope ∈ Consent.union a b ↔ Consent.supported scope ∧ (scope ∈ a ∨ scope ∈ b)) ∧
    ((Consent.intersection a b).Pairwise (· < ·) ∧
      ∀ scope, scope ∈ Consent.intersection a b ↔ Consent.supported scope ∧ scope ∈ a ∧ scope ∈ b) ∧
    ((Consent.difference a b).Pairwise (· < ·) ∧
      ∀ scope, scope ∈ Consent.difference a b ↔ Consent.supported scope ∧ scope ∈ a ∧ scope ∉ b) ∧
    (Consent.difference a (Consent.intersection b c) = [] ↔
      ∀ scope ∈ a, Consent.supported scope → scope ∈ b ∧ scope ∈ c) ∧
    (∀ canonical, Consent.canonicalScopes a = some canonical →
      parseScopeClaim (" ".intercalate canonical) = some canonical) ∧
    ∀ scopes, parseScopeClaim raw = some scopes → raw = " ".intercalate scopes := by
  refine ⟨?_, ?_, ⟨Consent.sortedSet_pairwise _, fun scope => Consent.mem_union⟩,
    ⟨Consent.sortedSet_pairwise _, ?_⟩,
    ⟨Consent.sortedSet_pairwise _, ?_⟩, ?_, fun canonical => parseScopeClaim_canonical,
    fun scopes => eq_of_parseScopeClaim⟩
  · rw [Option.isSome_iff_exists]
    constructor
    · rintro ⟨result, canonical⟩
      obtain ⟨⟨nodup, allSupported, openid⟩, -⟩ := Consent.canonicalScopes_iff.mp canonical
      exact ⟨nodup, openid, allSupported⟩
    · rintro ⟨nodup, openid, allSupported⟩
      exact ⟨_, Consent.canonicalScopes_iff.mpr ⟨⟨nodup, allSupported, openid⟩, rfl⟩⟩
  · intro result canonical
    obtain ⟨-, isSorted⟩ := Consent.canonicalScopes_iff.mp canonical
    exact ⟨isSorted ▸ Consent.sortStrings_perm a, canonical_sorted canonical⟩
  · intro scope
    rw [Consent.mem_intersection]
    tauto
  · intro scope
    rw [Consent.mem_difference]
    tauto
  · rw [Consent.difference_eq_nil]
    refine forall₂_congr fun scope _ => ?_
    constructor
    · intro covered isSupported
      obtain ⟨inB, -, inC⟩ := Consent.mem_intersection.mp (covered isSupported)
      exact ⟨inB, inC⟩
    · intro both isSupported
      obtain ⟨inB, inC⟩ := both isSupported
      exact Consent.mem_intersection.mpr ⟨inB, isSupported, inC⟩

theorem scope_algebra_openid :
    Consent.canonicalScopes ["openid", "email"] = some ["email", "openid"] ∧
      parseScopeClaim (" ".intercalate ["email", "openid"]) = some ["email", "openid"] := by
  have canonical : Consent.canonicalScopes ["openid", "email"] = some ["email", "openid"] := by decide
  obtain ⟨-, -, -, -, -, -, readBack, -⟩ := scope_algebra ["openid", "email"] [] [] ""
  exact ⟨canonical, readBack _ canonical⟩

end OneIssuer.Token
