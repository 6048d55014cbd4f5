import OneIssuer.Token.Profile

/-!
# Base64

The strict decoder of URL-safe base64 without padding, and that it inverts the encoder. Cursors,
token identifiers and refresh tokens are written in it.
-/

set_option autoImplicit false

namespace OneIssuer.Token

/-- The bytes of six-bit values, when the bits left over are zero. -/
def strictBytes : List Nat → Option Bytes
  | a :: b :: c :: d :: rest =>
    (strictBytes rest).map fun bytes =>
      UInt8.ofNat (a * 4 + b / 16) :: UInt8.ofNat (b % 16 * 16 + c / 4) ::
        UInt8.ofNat (c % 4 * 64 + d) :: bytes
  | [a, b, c] =>
    if c % 4 == 0 then some [UInt8.ofNat (a * 4 + b / 16), UInt8.ofNat (b % 16 * 16 + c / 4)]
    else none
  | [a, b] => if b % 16 == 0 then some [UInt8.ofNat (a * 4 + b / 16)] else none
  | [_] => none
  | [] => some []

/-- `base64.RawURLEncoding.Strict().DecodeString`: the decoder skips line ends. -/
def decodeRawURL (text : List Char) : Option Bytes :=
  (base64Values (text.filter fun c => c != '\r' && c != '\n')).bind strictBytes

theorem base64Char_index :
    ∀ value < 64, base64Alphabet.findIdx? (· == base64Char value) = some value := by
  decide +kernel

theorem base64Char_visible :
    ∀ value < 64, (base64Char value != '\r' && base64Char value != '\n') = true := by
  decide +kernel

/-- Reading the character of a six-bit value gives the value back. -/
theorem base64Values_char {value : Nat} (bound : value < 64) (text : List Char) :
    base64Values ((base64Char value :: text).filter fun c => c != '\r' && c != '\n') =
      (base64Values (text.filter fun c => c != '\r' && c != '\n')).map (value :: ·) := by
  have visible := base64Char_visible value bound
  simp only [List.filter_cons, visible, if_true, base64Values, List.mapM_cons,
    base64Char_index value bound]
  exact Option.map_eq_bind.symm

theorem base64Values_nil :
    base64Values ([].filter fun c => c != '\r' && c != '\n') = some [] := rfl

@[simp] theorem decodeRawURL_encodeRawURL : ∀ bytes : Bytes,
    decodeRawURL (encodeRawURL bytes) = some bytes
  | a :: b :: c :: rest => by
    have := a.toNat_lt
    have := b.toNat_lt
    have := c.toNat_lt
    obtain ⟨values, isValues, decoded⟩ :=
      Option.bind_eq_some_iff.mp (decodeRawURL_encodeRawURL rest)
    have first : (a.toNat / 4) * 4 + (a.toNat % 4 * 16 + b.toNat / 16) / 16 = a.toNat := by omega
    have second : (a.toNat % 4 * 16 + b.toNat / 16) % 16 * 16 +
        (b.toNat % 16 * 4 + c.toNat / 64) / 4 = b.toNat := by omega
    have third : (b.toNat % 16 * 4 + c.toNat / 64) % 4 * 64 + c.toNat % 64 = c.toNat := by omega
    rw [decodeRawURL, encodeRawURL, base64Values_char (by omega), base64Values_char (by omega),
      base64Values_char (by omega), base64Values_char (by omega), isValues]
    simp only [strictBytes, Option.map_some, Option.bind_some, decoded, first, second, third,
      UInt8.ofNat_toNat]
  | [a, b] => by
    have := a.toNat_lt
    have := b.toNat_lt
    have first : (a.toNat / 4) * 4 + (a.toNat % 4 * 16 + b.toNat / 16) / 16 = a.toNat := by omega
    have second : (a.toNat % 4 * 16 + b.toNat / 16) % 16 * 16 + b.toNat % 16 * 4 / 4 = b.toNat := by
      omega
    have padding : b.toNat % 16 * 4 % 4 = 0 := by omega
    rw [decodeRawURL, encodeRawURL, base64Values_char (by omega), base64Values_char (by omega),
      base64Values_char (by omega), base64Values_nil]
    simp only [strictBytes, Option.map_some, Option.bind_some, first, second, padding,
      UInt8.ofNat_toNat, beq_self_eq_true, if_true]
  | [a] => by
    have := a.toNat_lt
    have first : (a.toNat / 4) * 4 + a.toNat % 4 * 16 / 16 = a.toNat := by omega
    have padding : a.toNat % 4 * 16 % 16 = 0 := by omega
    rw [decodeRawURL, encodeRawURL, base64Values_char (by omega), base64Values_char (by omega),
      base64Values_nil]
    simp only [strictBytes, Option.map_some, Option.bind_some, first, padding, UInt8.ofNat_toNat,
      beq_self_eq_true, if_true]
  | [] => rfl

/-! ## Lengths -/

theorem strictLength_eq : ∀ values : List Nat,
    strictLength values = (strictBytes values).map List.length
  | _ :: _ :: _ :: _ :: rest => by
    rw [strictLength, strictBytes, strictLength_eq rest, Option.map_map, Option.map_map]
    rfl
  | [_, _, c] => by
    rw [strictLength, strictBytes]
    split <;> rfl
  | [_, b] => by
    rw [strictLength, strictBytes]
    split <;> rfl
  | [_] => rfl
  | [] => rfl

/-- The length of an encoded text is the length of its bytes. -/
@[simp] theorem decodedLength_encodeRawURL (bytes : Bytes) :
    decodedLength (encodeRawURL bytes) = some bytes.length := by
  have decoded := decodeRawURL_encodeRawURL bytes
  obtain ⟨values, isValues, isBytes⟩ := Option.bind_eq_some_iff.mp decoded
  rw [decodedLength, isValues, Option.bind_some, strictLength_eq, isBytes]
  rfl

/-- An encoded text is written in the alphabet. -/
theorem encodeRawURL_chars : ∀ bytes : Bytes, ∀ c ∈ encodeRawURL bytes, ∃ value < 64, c = base64Char value
  | a :: b :: c :: rest => by
    have := a.toNat_lt
    have := b.toNat_lt
    have := c.toNat_lt
    simp only [encodeRawURL, List.mem_cons, forall_eq_or_imp]
    exact ⟨⟨_, by omega, rfl⟩, ⟨_, by omega, rfl⟩, ⟨_, by omega, rfl⟩, ⟨_, by omega, rfl⟩,
      encodeRawURL_chars rest⟩
  | [a, b] => by
    have := a.toNat_lt
    have := b.toNat_lt
    simp only [encodeRawURL, List.mem_cons, forall_eq_or_imp, List.not_mem_nil, false_imp_iff,
      implies_true, and_true]
    exact ⟨⟨_, by omega, rfl⟩, ⟨_, by omega, rfl⟩, ⟨_, by omega, rfl⟩⟩
  | [a] => by
    have := a.toNat_lt
    simp only [encodeRawURL, List.mem_cons, forall_eq_or_imp, List.not_mem_nil, false_imp_iff,
      implies_true, and_true]
    exact ⟨⟨_, by omega, rfl⟩, ⟨_, by omega, rfl⟩⟩
  | [] => nofun

theorem base64Char_size : ∀ value < 64, (base64Char value).utf8Size = 1 := by
  decide +kernel

/-- An encoded text is ASCII. -/
theorem encodeRawURL_ascii (bytes : Bytes) : ∀ c ∈ encodeRawURL bytes, c.utf8Size = 1 := by
  intro c member
  obtain ⟨value, small, rfl⟩ := encodeRawURL_chars bytes c member
  exact base64Char_size value small

theorem utf8ByteSize_of_ascii {text : List Char} (ascii : ∀ c ∈ text, c.utf8Size = 1) :
    (String.ofList text).utf8ByteSize = text.length := by
  induction text with
  | nil => rfl
  | cons first rest ih =>
    obtain ⟨small, ascii⟩ := List.forall_mem_cons.mp ascii
    rw [String.ofList_cons, String.utf8ByteSize_append, String.utf8ByteSize_singleton, small, ih ascii,
      List.length_cons, Nat.add_comm]

/-- Three bytes are four characters, and what is left over gets one character more. -/
theorem length_encodeRawURL : ∀ bytes : Bytes,
    (encodeRawURL bytes).length = (bytes.length * 4 + 2) / 3
  | a :: b :: c :: rest => by
    simp only [encodeRawURL, List.length_cons, length_encodeRawURL rest]
    omega
  | [_, _] => by simp [encodeRawURL]
  | [_] => by simp [encodeRawURL]
  | [] => rfl

/-- The number of characters that decode to `n` bytes. -/
theorem length_of_strictLength : ∀ {values : List Nat} {n : Nat}, strictLength values = some n →
    values.length = (n * 4 + 2) / 3
  | _ :: _ :: _ :: _ :: rest, n, decoded => by
    obtain ⟨m, isLength, rfl⟩ := Option.map_eq_some_iff.mp decoded
    simp only [List.length_cons, length_of_strictLength isLength]
    omega
  | [_, _, c], n, decoded => by
    simp only [strictLength, Option.ite_none_right_eq_some, Option.some.injEq] at decoded
    simp [← decoded.2]
  | [_, b], n, decoded => by
    simp only [strictLength, Option.ite_none_right_eq_some, Option.some.injEq] at decoded
    simp [← decoded.2]
  | [], n, decoded => by
    cases decoded
    rfl

/-- The characters of six-bit values. -/
theorem base64Values_some : ∀ {text : List Char} {values : List Nat},
    base64Values text = some values →
      (∀ value ∈ values, value < 64) ∧ text = values.map base64Char
  | [], values, isValues => by
    cases isValues
    exact ⟨nofun, rfl⟩
  | c :: rest, values, isValues => by
    simp only [base64Values, List.mapM_cons, Option.bind_eq_bind, Option.bind_eq_some_iff] at isValues
    obtain ⟨value, found, others, areOthers, isValues⟩ := isValues
    cases isValues
    obtain ⟨small, isRest⟩ := base64Values_some areOthers
    obtain ⟨bound, isChar, -⟩ := List.findIdx?_eq_some_iff_getElem.mp found
    have size : base64Alphabet.length = 64 := by decide
    refine ⟨List.forall_mem_cons.mpr ⟨by omega, small⟩, ?_⟩
    rw [List.map_cons, ← isRest, base64Char, List.getD, List.getElem?_eq_getElem bound,
      beq_iff_eq.mp isChar]
    rfl

/-- Encoding what the strict decoder read gives the text back. -/
theorem encodeRawURL_strictBytes : ∀ {values : List Nat} {bytes : Bytes},
    (∀ value ∈ values, value < 64) → strictBytes values = some bytes →
      encodeRawURL bytes = values.map base64Char
  | a :: b :: c :: d :: rest, bytes, small, decoded => by
    obtain ⟨others, areOthers, rfl⟩ := Option.map_eq_some_iff.mp decoded
    simp only [List.mem_cons, forall_eq_or_imp] at small
    obtain ⟨boundA, boundB, boundC, boundD, boundRest⟩ := small
    simp only [encodeRawURL, List.map_cons, encodeRawURL_strictBytes boundRest areOthers,
      UInt8.toNat_ofNat']
    congr <;> omega
  | [a, b, c], bytes, small, decoded => by
    simp only [strictBytes, Option.ite_none_right_eq_some, Option.some.injEq, beq_iff_eq] at decoded
    obtain ⟨padding, rfl⟩ := decoded
    simp only [List.mem_cons, forall_eq_or_imp] at small
    obtain ⟨boundA, boundB, boundC, -⟩ := small
    simp only [encodeRawURL, List.map_cons, List.map_nil, UInt8.toNat_ofNat']
    congr <;> omega
  | [a, b], bytes, small, decoded => by
    simp only [strictBytes, Option.ite_none_right_eq_some, Option.some.injEq, beq_iff_eq] at decoded
    obtain ⟨padding, rfl⟩ := decoded
    simp only [List.mem_cons, forall_eq_or_imp] at small
    obtain ⟨boundA, boundB, -⟩ := small
    simp only [encodeRawURL, List.map_cons, List.map_nil, UInt8.toNat_ofNat']
    congr <;> omega
  | [], bytes, small, decoded => by
    cases decoded
    rfl

theorem length_of_mapM {α β : Type} {f : α → Option β} : ∀ {values : List α} {results : List β},
    values.mapM f = some results → results.length = values.length
  | [], results, mapped => by
    cases mapped
    rfl
  | first :: rest, results, mapped => by
    simp only [List.mapM_cons, Option.bind_eq_bind, Option.bind_eq_some_iff] at mapped
    obtain ⟨result, -, others, areOthers, isResults⟩ := mapped
    cases isResults
    simp [length_of_mapM areOthers]

/-- A text has at least one byte for each character. -/
theorem length_le_utf8ByteSize (text : List Char) :
    text.length ≤ (String.ofList text).utf8ByteSize := by
  induction text with
  | nil => exact Nat.zero_le _
  | cons first rest ih =>
    have positive := first.utf8Size_pos
    rw [String.ofList_cons, String.utf8ByteSize_append, String.utf8ByteSize_singleton,
      List.length_cons]
    omega

end OneIssuer.Token
