import OneIssuer.Token.Base64
import OneIssuer.Wire.Text

/-!
# Password hashes

Stored credentials are Argon2id hashes in PHC notation. `hash` writes them, `parsePHC` reads them, and
`verify` calls Argon2 with what was read; the library panics when it is asked for no rounds or no
threads.

`PHC` says what a hash in the notation is, and `parsePHC` reads exactly these. Its parameter list is
read into a map with any names, so a hash may name other parameters than the number of rounds and of
threads; these are then zero.

`stored_hash_safe_iff` says when a stored text is safe to verify, `verify_written_hash` what becomes of
a hash that this program wrote.

**What it does not establish.** That two passwords have two keys, or that keys are hard to invert:
`Argon2` is any function with keys of the right length.
-/

set_option autoImplicit false

namespace OneIssuer.Identity

open Wire Token

/-! ## Base64 with the standard alphabet -/

/-- The six-bit value of an octet of the standard alphabet. -/
def standardValue (octet : UInt8) : Option Nat :=
  (octets "ABCDEFGHIJKLMNOPQRSTUVWXYZabcdefghijklmnopqrstuvwxyz0123456789+/").findIdx? (· == octet)

/-- The octet of the standard alphabet in place of one of the URL alphabet. -/
def standardOctet (c : Char) : UInt8 :=
  if c == '-' then 43 else if c == '_' then 47 else c.toNat.toUInt8

/-- `base64.RawStdEncoding.EncodeToString`. -/
def encodeRawStd (bytes : Bytes) : Octets := (encodeRawURL bytes).map standardOctet

/-- `base64.RawStdEncoding.Strict().DecodeString`: the decoder skips line ends. -/
def decodeRawStd (text : Octets) : Option Bytes :=
  ((text.filter fun octet => octet != 13 && octet != 10).mapM standardValue).bind strictBytes

theorem standardValue_standardOctet :
    ∀ value < 64, standardValue (standardOctet (base64Char value)) = some value ∧
      (standardOctet (base64Char value) != 13 && standardOctet (base64Char value) != 10) = true := by
  decide +kernel

/-- A text of the URL alphabet has the values of its translation. -/
theorem mapM_standardValue {text : List Char}
    (alphabet : ∀ c ∈ text, ∃ value < 64, c = base64Char value) :
    ((text.map standardOctet).filter fun octet => octet != 13 && octet != 10).mapM standardValue =
      base64Values (text.filter fun c => c != '\r' && c != '\n') := by
  induction text with
  | nil => rfl
  | cons c rest ih =>
    obtain ⟨⟨value, bound, rfl⟩, others⟩ := List.forall_mem_cons.mp alphabet
    obtain ⟨isValue, visible⟩ := standardValue_standardOctet value bound
    rw [base64Values_char bound, ← ih others, List.map_cons, List.filter_cons, if_pos visible,
      List.mapM_cons, isValue]
    exact Option.map_eq_bind.symm

@[simp] theorem decodeRawStd_encodeRawStd (bytes : Bytes) :
    decodeRawStd (encodeRawStd bytes) = some bytes := by
  rw [decodeRawStd, encodeRawStd, mapM_standardValue (encodeRawURL_chars bytes)]
  exact decodeRawURL_encodeRawURL bytes

/-- A text that decodes has no dollar sign. -/
theorem not_mem_of_decodeRawStd {text : Octets} {bytes : Bytes}
    (decoded : decodeRawStd text = some bytes) : 36 ∉ text := by
  obtain ⟨values, areValues, -⟩ := Option.bind_eq_some_iff.mp decoded
  clear decoded
  induction text generalizing values with
  | nil => exact List.not_mem_nil
  | cons octet rest ih =>
    rw [List.mem_cons, not_or]
    by_cases visible : (octet != 13 && octet != 10) = true
    · rw [List.filter_cons, if_pos visible, List.mapM_cons] at areValues
      obtain ⟨value, isValue, areValues⟩ := Option.bind_eq_some_iff.mp areValues
      obtain ⟨others, areOthers, _⟩ := Option.bind_eq_some_iff.mp areValues
      refine ⟨?_, ih others areOthers⟩
      rintro rfl
      have noValue : standardValue 36 = none := by decide
      rw [noValue] at isValue
      cases isValue
    · rw [List.filter_cons, if_neg visible] at areValues
      refine ⟨?_, ih values areValues⟩
      rintro rfl
      exact visible (by decide)

/-! ## Hashing -/

/-- `Argon2Params`. -/
structure Argon2Params where
  memoryKiB : UInt32
  time : UInt32
  threads : UInt8
  saltLen : UInt32
  keyLen : UInt32
  deriving DecidableEq, Repr

/-- The Argon2id function. -/
structure Argon2 where
  key : (password salt : Octets) → (time memory : UInt32) → (threads : UInt8) → (keyLen : UInt32) → Bytes
  key_length : ∀ password salt time memory threads keyLen,
    (key password salt time memory threads keyLen).length = keyLen.toNat

/-- `argon2.IDKey`; nothing when it panics. -/
def Argon2.idKey (argon2 : Argon2) (password salt : Octets) (time memory : UInt32) (threads : UInt8)
    (keyLen : UInt32) : Option Bytes :=
  if time < 1 || threads < 1 then none
  else some (argon2.key password salt time memory threads keyLen)

/-- `PasswordHasher` as `NewPasswordHasher` makes it, without its gate. -/
structure PasswordHasher where
  params : Argon2Params
  positive : params.memoryKiB ≠ 0 ∧ params.time ≠ 0 ∧ params.threads ≠ 0
  saltLen_bounded : 16 ≤ params.saltLen ∧ params.saltLen ≤ 64
  keyLen_bounded : 16 ≤ params.keyLen ∧ params.keyLen ≤ 64

/-- Argon2 does not panic with the parameters of a hasher. -/
theorem PasswordHasher.calls (hasher : PasswordHasher) :
    (decide (hasher.params.time < 1) || decide (hasher.params.threads < 1)) = false := by
  simpa [UInt32.lt_one_iff, UInt8.lt_one_iff] using hasher.positive.2

/-- How `acquire` goes. -/
inductive Admission where
  | entered
  | cancelled
  | busy
  deriving DecidableEq, Repr

/-- The text of a hash. -/
def formatPHC (params : Argon2Params) (salt digest : Bytes) : Octets :=
  octets "$argon2id$v=19$m=" ++ printed params.memoryKiB.toNat ++ octets ",t=" ++
    printed params.time.toNat ++ octets ",p=" ++ printed params.threads.toNat ++ octets "$" ++
    encodeRawStd salt ++ octets "$" ++ encodeRawStd digest

/-- How `Hash` and `Verify` end. -/
inductive Outcome (α : Type) where
  | done (value : α)
  | invalidHash
  | refused (admission : Admission)
  | panicked
  deriving DecidableEq, Repr

/-- `Hash` with the salt it read. -/
def PasswordHasher.hash (hasher : PasswordHasher) (argon2 : Argon2) (admission : Admission)
    (password : Octets) (salt : Bytes) : Outcome Octets :=
  if admission ≠ .entered then .refused admission
  else
    let params := hasher.params
    match argon2.idKey password salt params.time params.memoryKiB params.threads params.keyLen with
    | none => .panicked
    | some digest => .done (formatPHC params salt digest)

/-! ## Parsing -/

/-- `values[name]`; a name that is not in the map has the value 0. -/
def valueOf (values : List (Octets × Nat)) (name : Octets) : Nat := (values.lookup name).getD 0

/-- The loop of `parsePHC` over the parameters. -/
def parseParameters : List Octets → List (Octets × Nat) → Option (List (Octets × Nat))
  | [], values => some values
  | item :: rest, values =>
    match cut 61 item with
    | none => none
    | some (name, text) =>
      if valueOf values name != 0 then none
      else
        match parseUint 32 text with
        | none => none
        | some value =>
          if value == 0 then none else parseParameters rest (values ++ [(name, value)])

/-- `parsePHC`; its only error is `ErrInvalidHash`. -/
def parsePHC (encoded : Octets) : Option (Argon2Params × Bytes × Bytes) :=
  match encoded.splitOn 36 with
  | [start, algorithm, version, parameters, saltText, digestText] =>
    if start != [] || algorithm != octets "argon2id" || version != octets "v=19" then none
    else if (parameters.splitOn 44).length != 3 then none
    else
      match parseParameters (parameters.splitOn 44) [] with
      | none => none
      | some values =>
        if valueOf values (octets "m") < 8 * 1024 || 1024 * 1024 < valueOf values (octets "m") ||
            20 < valueOf values (octets "t") || 32 < valueOf values (octets "p") then none
        else
          match decodeRawStd saltText, decodeRawStd digestText with
          | some salt, some digest =>
            if salt.length < 16 || 64 < salt.length || digest.length < 16 || 64 < digest.length then
              none
            else
              some (⟨(valueOf values (octets "m")).toUInt32, (valueOf values (octets "t")).toUInt32,
                (valueOf values (octets "p")).toUInt8, salt.length.toUInt32, digest.length.toUInt32⟩,
                salt, digest)
          | _, _ => none
  | _ => none

/-- `Verify`: whether the password matches, and whether the hash has to be renewed. -/
def PasswordHasher.verify (hasher : PasswordHasher) (argon2 : Argon2) (admission : Admission)
    (password encoded : Octets) : Outcome (Bool × Bool) :=
  match parsePHC encoded with
  | none => .invalidHash
  | some (params, salt, expected) =>
    if admission ≠ .entered then .refused admission
    else
      let expectedLength := expected.length.toUInt32
      match argon2.idKey password salt params.time params.memoryKiB params.threads expectedLength with
      | none => .panicked
      | some actual =>
        let isMatch := actual == expected
        .done (isMatch, isMatch && (params.memoryKiB != hasher.params.memoryKiB ||
          params.time != hasher.params.time || params.threads != hasher.params.threads ||
          salt.length.toUInt32 != hasher.params.saltLen || expectedLength != hasher.params.keyLen))

/-! ## The notation -/

/-- A parameter of a hash. -/
structure Parameter where
  name : Octets
  digits : Octets
  name_plain : 36 ∉ name ∧ 44 ∉ name ∧ 61 ∉ name
  digits_plain : digits ≠ [] ∧ ∀ digit ∈ digits, isDigit digit
  value_bounded : 0 < number digits ∧ number digits < 2 ^ 32

def Parameter.text (parameter : Parameter) : Octets := parameter.name ++ 61 :: parameter.digits

def Parameter.entry (parameter : Parameter) : Octets × Nat := (parameter.name, number parameter.digits)

/-- The value of a name in a list of parameters. -/
def Parameter.among (parameters : List Parameter) (name : String) : Nat :=
  valueOf (parameters.map Parameter.entry) (octets name)

/-- A hash in PHC notation: three parameters with different names, one of them the memory. -/
structure PHC where
  parameters : List Parameter
  saltText : Octets
  digestText : Octets
  salt : Bytes
  digest : Bytes
  three : parameters.length = 3
  distinct : (parameters.map (·.name)).Nodup
  memory : 8192 ≤ Parameter.among parameters "m" ∧ Parameter.among parameters "m" ≤ 1048576
  time : Parameter.among parameters "t" ≤ 20
  threads : Parameter.among parameters "p" ≤ 32
  salt_decoded : decodeRawStd saltText = some salt
  salt_length : 16 ≤ salt.length ∧ salt.length ≤ 64
  digest_decoded : decodeRawStd digestText = some digest
  digest_length : 16 ≤ digest.length ∧ digest.length ≤ 64

/-- The text of a hash. -/
def PHC.text (phc : PHC) : Octets :=
  [36].intercalate [[], octets "argon2id", octets "v=19",
    [44].intercalate (phc.parameters.map Parameter.text), phc.saltText, phc.digestText]

/-- The parameters of a hash. -/
def PHC.params (phc : PHC) : Argon2Params :=
  ⟨(Parameter.among phc.parameters "m").toUInt32, (Parameter.among phc.parameters "t").toUInt32,
    (Parameter.among phc.parameters "p").toUInt8, phc.salt.length.toUInt32,
    phc.digest.length.toUInt32⟩

/-- The hash has a parameter of this name. -/
def PHC.Names (phc : PHC) (name : String) : Prop := octets name ∈ phc.parameters.map (·.name)

/-! ## Parsing reads the notation -/

/-- With values other than 0, a name has the value 0 exactly when it is not in the map. -/
theorem valueOf_eq_zero {values : List (Octets × Nat)} {name : Octets}
    (nonzero : ∀ entry ∈ values, entry.2 ≠ 0) :
    valueOf values name = 0 ↔ name ∉ values.map (·.1) := by
  induction values with
  | nil => simp [valueOf]
  | cons entry rest ih =>
    obtain ⟨key, value⟩ := entry
    obtain ⟨isNonzero, others⟩ := List.forall_mem_cons.mp nonzero
    by_cases same : name = key
    · simp [valueOf, same, isNonzero]
    · have differs : (name == key) = false := beq_eq_false_iff_ne.mpr same
      simpa [valueOf, List.lookup_cons, differs, same] using ih others

section Parameters

variable {items : List Octets} {values result : List (Octets × Nat)} {parameters : List Parameter}

theorem nonzero_append {parameter : Parameter} (nonzero : ∀ entry ∈ values, entry.2 ≠ 0) :
    ∀ entry ∈ values ++ [parameter.entry], entry.2 ≠ 0 := by
  intro entry member
  rcases List.mem_append.mp member with member | member
  · exact nonzero entry member
  · rw [List.mem_singleton.mp member]
    exact Nat.pos_iff_ne_zero.mp parameter.value_bounded.1

/-- What one turn of the loop does with an item that is a parameter. -/
theorem parseParameters_cons (parameter : Parameter) (rest : List Octets)
    (nonzero : ∀ entry ∈ values, entry.2 ≠ 0) (fresh : parameter.name ∉ values.map (·.1)) :
    parseParameters (parameter.text :: rest) values =
      parseParameters rest (values ++ [parameter.entry]) := by
  have isCut : cut 61 parameter.text = some (parameter.name, parameter.digits) :=
    cut_eq_some.mpr ⟨rfl, parameter.name_plain.2.2⟩
  have isNumber : parseUint 32 parameter.digits = some (number parameter.digits) :=
    parseUint_eq_some.mpr
      ⟨parameter.digits_plain.1, parameter.digits_plain.2, parameter.value_bounded.2, rfl⟩
  have positive : (number parameter.digits == 0) = false :=
    beq_eq_false_iff_ne.mpr (Nat.pos_iff_ne_zero.mp parameter.value_bounded.1)
  simp only [parseParameters, isCut, (valueOf_eq_zero nonzero).mpr fresh, isNumber, positive,
    bne_self_eq_false, Bool.false_eq_true, if_false]
  rfl

/-- The loop reads a list of parameters with new and different names. -/
theorem parseParameters_texts (nonzero : ∀ entry ∈ values, entry.2 ≠ 0)
    (distinct : (parameters.map (·.name)).Nodup)
    (fresh : ∀ parameter ∈ parameters, parameter.name ∉ values.map (·.1)) :
    parseParameters (parameters.map Parameter.text) values =
      some (values ++ parameters.map Parameter.entry) := by
  induction parameters generalizing values with
  | nil => simp [parseParameters]
  | cons parameter rest ih =>
    rw [List.map_cons, List.nodup_cons] at distinct
    obtain ⟨isFresh, fresh⟩ := List.forall_mem_cons.mp fresh
    rw [List.map_cons, parseParameters_cons parameter _ nonzero isFresh,
      ih (nonzero_append nonzero) distinct.2]
    · simp
    · intro other member
      rw [List.map_append, List.mem_append, not_or]
      refine ⟨fresh other member, ?_⟩
      simp only [List.map_cons, List.map_nil, List.mem_singleton]
      intro same
      exact distinct.1 (List.mem_map.mpr ⟨other, member, same⟩)

/-- An item that the loop accepts is a parameter. -/
theorem parameter_of_parsed {item : Octets} {rest : List Octets} (plain : 36 ∉ item ∧ 44 ∉ item)
    (nonzero : ∀ entry ∈ values, entry.2 ≠ 0)
    (parsed : parseParameters (item :: rest) values = some result) :
    ∃ parameter : Parameter, item = parameter.text ∧ parameter.name ∉ values.map (·.1) ∧
      parseParameters rest (values ++ [parameter.entry]) = some result := by
  cases isCut : cut 61 item with
  | none => simp [parseParameters, isCut] at parsed
  | some pair =>
    obtain ⟨name, text⟩ := pair
    obtain ⟨rfl, noEquals⟩ := cut_eq_some.mp isCut
    simp only [parseParameters, isCut] at parsed
    split at parsed
    · cases parsed
    · rename_i unset
      cases isNumber : parseUint 32 text with
      | none => simp [isNumber] at parsed
      | some value =>
        obtain ⟨nonempty, digits, small, rfl⟩ := parseUint_eq_some.mp isNumber
        simp only [isNumber] at parsed
        split at parsed
        · cases parsed
        · rename_i notZero
          simp only [List.mem_append, List.mem_cons, not_or] at plain
          have positive : 0 < number text := Nat.pos_iff_ne_zero.mpr (by simpa using notZero)
          have fresh : name ∉ values.map (·.1) := (valueOf_eq_zero nonzero).mp (by simpa using unset)
          exact ⟨⟨name, text, ⟨plain.1.1, plain.2.1, noEquals⟩, ⟨nonempty, digits⟩,
            ⟨positive, small⟩⟩, rfl, fresh, parsed⟩

/-- The loop accepts nothing else. -/
theorem texts_of_parseParameters (plain : ∀ item ∈ items, 36 ∉ item ∧ 44 ∉ item)
    (nonzero : ∀ entry ∈ values, entry.2 ≠ 0)
    (parsed : parseParameters items values = some result) :
    ∃ parameters : List Parameter, items = parameters.map Parameter.text ∧
      (parameters.map (·.name)).Nodup ∧
      (∀ parameter ∈ parameters, parameter.name ∉ values.map (·.1)) ∧
      result = values ++ parameters.map Parameter.entry := by
  induction items generalizing values with
  | nil =>
    cases parsed
    exact ⟨[], rfl, List.nodup_nil, nofun, by simp⟩
  | cons item rest ih =>
    obtain ⟨isPlain, arePlain⟩ := List.forall_mem_cons.mp plain
    obtain ⟨parameter, rfl, fresh, parsed⟩ := parameter_of_parsed isPlain nonzero parsed
    obtain ⟨parameters, rfl, distinct, others, rfl⟩ := ih arePlain (nonzero_append nonzero) parsed
    have apart : ∀ other ∈ parameters, other.name ≠ parameter.name ∧
        other.name ∉ values.map (·.1) := by
      intro other member
      have absent := others other member
      rw [List.map_append, List.mem_append, not_or] at absent
      exact ⟨by simpa [Parameter.entry] using absent.2, absent.1⟩
    refine ⟨parameter :: parameters, rfl, ?_, ?_, by simp⟩
    · rw [List.map_cons, List.nodup_cons]
      refine ⟨?_, distinct⟩
      intro member
      obtain ⟨other, inside, same⟩ := List.mem_map.mp member
      exact (apart other inside).1 same
    · exact List.forall_mem_cons.mpr ⟨fresh, fun other member => (apart other member).2⟩

end Parameters

/-- The text of a parameter has no separator of the notation. -/
theorem Parameter.text_plain (parameter : Parameter) : 36 ∉ parameter.text ∧ 44 ∉ parameter.text := by
  obtain ⟨noDollar, noComma, _⟩ := parameter.name_plain
  have digits := parameter.digits_plain.2
  simp only [Parameter.text, List.mem_append, List.mem_cons, not_or]
  refine ⟨⟨noDollar, by decide, ?_⟩, noComma, by decide, ?_⟩
  · intro member
    exact absurd (digits _ member) (by decide)
  · intro member
    exact absurd (digits _ member) (by decide)

namespace PHC

variable (phc : PHC)

/-- The parts of the text between its dollar signs. -/
theorem splitOn_text : phc.text.splitOn 36 =
    [[], octets "argon2id", octets "v=19", [44].intercalate (phc.parameters.map Parameter.text),
      phc.saltText, phc.digestText] := by
  refine List.splitOn_intercalate 36 ?_ (by simp)
  simp only [List.forall_mem_cons, List.not_mem_nil, false_imp_iff, implies_true, and_true]
  refine ⟨not_false, by decide, by decide, ?_, not_mem_of_decodeRawStd phc.salt_decoded,
    not_mem_of_decodeRawStd phc.digest_decoded⟩
  intro member
  rcases mem_intercalate member with same | ⟨part, inside, member⟩
  · exact absurd same (by decide)
  · obtain ⟨parameter, _, rfl⟩ := List.mem_map.mp inside
    exact parameter.text_plain.1 member

theorem splitOn_parameters :
    ([44].intercalate (phc.parameters.map Parameter.text)).splitOn 44 =
      phc.parameters.map Parameter.text := by
  refine List.splitOn_intercalate 44 ?_ ?_
  · intro part inside
    obtain ⟨parameter, _, rfl⟩ := List.mem_map.mp inside
    exact parameter.text_plain.2
  · intro empty
    have three := phc.three
    rw [List.map_eq_nil_iff.mp empty] at three
    cases three

/-- Parsing reads every hash of the notation. -/
theorem parsePHC_text : parsePHC phc.text = some (phc.params, phc.salt, phc.digest) := by
  have memory := phc.memory
  have time := phc.time
  have threads := phc.threads
  have salt := phc.salt_length
  have digest := phc.digest_length
  have read : parseParameters (phc.parameters.map Parameter.text) [] =
      some (phc.parameters.map Parameter.entry) := parseParameters_texts nofun phc.distinct nofun
  simp only [Parameter.among] at memory time threads
  simp only [parsePHC, phc.splitOn_text, phc.splitOn_parameters, List.length_map, phc.three,
    read, phc.salt_decoded, phc.digest_decoded, bne_self_eq_false, Bool.or_false, Bool.false_eq_true,
    if_false]
  rw [if_neg (by simp; omega), if_neg (by simp; omega)]
  rfl

end PHC

/-- Parsing reads nothing else. -/
theorem phc_of_parsePHC {encoded : Octets} {params : Argon2Params} {salt digest : Bytes}
    (parsed : parsePHC encoded = some (params, salt, digest)) :
    ∃ phc : PHC, encoded = phc.text ∧ params = phc.params ∧ salt = phc.salt ∧ digest = phc.digest := by
  unfold parsePHC at parsed
  split at parsed
  case h_2 => cases parsed
  case h_1 start algorithm version parameterText saltText digestText isSplit =>
    have joined : [36].intercalate (encoded.splitOn 36) = encoded := List.intercalate_splitOn 36
    have isPart : parameterText ∈ encoded.splitOn 36 := by simp [isSplit]
    rw [isSplit] at joined
    split at parsed
    · cases parsed
    rename_i isHeader
    split at parsed
    · cases parsed
    rename_i isThree
    split at parsed
    · cases parsed
    rename_i values areValues
    split at parsed
    · cases parsed
    rename_i inBounds
    split at parsed
    case h_2 => cases parsed
    case h_1 _ _ saltBytes digestBytes saltDecoded digestDecoded =>
      split at parsed
      · cases parsed
      rename_i lengths
      cases parsed
      obtain ⟨parameters, isParameters, distinct, _, rfl⟩ := texts_of_parseParameters
        (fun item member => ⟨fun inside =>
          not_mem_of_mem_splitOn isPart (mem_of_mem_splitOn member inside),
          not_mem_of_mem_splitOn member⟩) (by simp) areValues
      simp only [Bool.or_eq_true, decide_eq_true_eq, not_or, Nat.not_lt, List.nil_append] at inBounds
      simp only [Bool.or_eq_true, decide_eq_true_eq, not_or, Nat.not_lt] at lengths
      simp only [Bool.or_eq_true, bne_iff_ne, ne_eq, not_or, not_not] at isHeader
      simp only [isParameters, List.length_map, bne_iff_ne, ne_eq, not_not] at isThree
      obtain ⟨⟨⟨memoryLow, memoryHigh⟩, time⟩, threads⟩ := inBounds
      obtain ⟨⟨⟨saltLow, saltHigh⟩, digestLow⟩, digestHigh⟩ := lengths
      obtain ⟨⟨rfl, rfl⟩, rfl⟩ := isHeader
      have isText : [44].intercalate (parameterText.splitOn 44) = parameterText :=
        List.intercalate_splitOn 44
      rw [isParameters] at isText
      refine ⟨⟨parameters, saltText, digestText, salt, digest, isThree, distinct,
        ⟨memoryLow, memoryHigh⟩, time, threads, saltDecoded, ⟨saltLow, saltHigh⟩, digestDecoded,
        ⟨digestLow, digestHigh⟩⟩, ?_, rfl, rfl, rfl⟩
      rw [← joined, PHC.text, isText]

/-! ## Safe verification -/

/-- The limits of Argon2 and of the lengths. -/
def WithinLimits (params : Argon2Params) (salt digest : Bytes) : Prop :=
  (8192 ≤ params.memoryKiB.toNat ∧ params.memoryKiB.toNat ≤ 1048576) ∧
    (1 ≤ params.time.toNat ∧ params.time.toNat ≤ 20) ∧
    (1 ≤ params.threads.toNat ∧ params.threads.toNat ≤ 32) ∧
    (16 ≤ salt.length ∧ salt.length ≤ 64) ∧ (16 ≤ digest.length ∧ digest.length ≤ 64)

namespace PHC

variable (phc : PHC)

/-- A parameter that is named has a positive value. -/
theorem names_iff (name : String) : phc.Names name ↔ 0 < Parameter.among phc.parameters name := by
  have nonzero : ∀ entry ∈ phc.parameters.map Parameter.entry, entry.2 ≠ 0 := by
    intro entry member
    obtain ⟨parameter, _, rfl⟩ := List.mem_map.mp member
    exact Nat.pos_iff_ne_zero.mp parameter.value_bounded.1
  have names : (phc.parameters.map Parameter.entry).map (·.1) = phc.parameters.map (·.name) := by
    rw [List.map_map]
    rfl
  rw [Nat.pos_iff_ne_zero, ne_eq, Parameter.among, valueOf_eq_zero nonzero, names, not_not, Names]

theorem toNat_time : phc.params.time.toNat = Parameter.among phc.parameters "t" := by
  have := phc.time
  rw [params, Nat.toUInt32, UInt32.toNat_ofNat', Nat.mod_eq_of_lt (by omega)]

theorem toNat_threads : phc.params.threads.toNat = Parameter.among phc.parameters "p" := by
  have := phc.threads
  rw [params, Nat.toUInt8, UInt8.toNat_ofNat', Nat.mod_eq_of_lt (by omega)]

theorem toNat_memoryKiB : phc.params.memoryKiB.toNat = Parameter.among phc.parameters "m" := by
  have := phc.memory
  rw [params, Nat.toUInt32, UInt32.toNat_ofNat', Nat.mod_eq_of_lt (by omega)]

/-- A hash is within the limits exactly when it names its rounds and threads. -/
theorem withinLimits_iff :
    WithinLimits phc.params phc.salt phc.digest ↔ phc.Names "t" ∧ phc.Names "p" := by
  rw [phc.names_iff, phc.names_iff, WithinLimits, toNat_time, toNat_threads, toNat_memoryKiB]
  have := phc.memory
  have := phc.time
  have := phc.threads
  have := phc.salt_length
  have := phc.digest_length
  omega

end PHC

/-- Within the limits Argon2 does not panic. -/
theorem verify_ne_panicked {params : Argon2Params} {salt digest : Bytes} {encoded : Octets}
    (parsed : parsePHC encoded = some (params, salt, digest)) (within : WithinLimits params salt digest)
    (hasher : PasswordHasher) (argon2 : Argon2) (admission : Admission) (password : Octets) :
    hasher.verify argon2 admission password encoded ≠ .panicked := by
  have rounds : ¬params.time < 1 := by
    have := within.2.1.1
    rwa [UInt32.lt_iff_toNat_lt, Nat.not_lt]
  have parallel : ¬params.threads < 1 := by
    have := within.2.2.1.1
    rwa [UInt8.lt_iff_toNat_lt, Nat.not_lt]
  simp only [PasswordHasher.verify, parsed]
  split
  · exact nofun
  · simp [Argon2.idKey, rounds, parallel]

/-- A stored hash that is accepted keeps the limits, and verification does not panic, exactly when it
is no hash of the notation that leaves out the rounds or the threads. -/
theorem stored_hash_safe_iff (encoded : Octets) :
    (∀ params salt digest, parsePHC encoded = some (params, salt, digest) →
      WithinLimits params salt digest ∧
        ∀ (hasher : PasswordHasher) (argon2 : Argon2) (admission : Admission) (password : Octets),
          hasher.verify argon2 admission password encoded ≠ .panicked) ↔
      ¬∃ phc : PHC, encoded = phc.text ∧ ¬(phc.Names "t" ∧ phc.Names "p") := by
  constructor
  · rintro safe ⟨phc, rfl, unnamed⟩
    exact unnamed (phc.withinLimits_iff.mp (safe _ _ _ phc.parsePHC_text).1)
  · intro named params salt digest parsed
    obtain ⟨phc, rfl, rfl, rfl, rfl⟩ := phc_of_parsePHC parsed
    have within : WithinLimits phc.params phc.salt phc.digest :=
      phc.withinLimits_iff.mpr (not_not.mp fun unnamed => named ⟨phc, rfl, unnamed⟩)
    exact ⟨within, verify_ne_panicked parsed within⟩

/-- A hash with two unknown parameters. -/
def strayHash : Octets :=
  octets ("$argon2id$v=19$m=65536,x=1,y=1$AAAAAAAAAAAAAAAAAAAAAA$" ++
    "AAAAAAAAAAAAAAAAAAAAAAAAAAAAAAAAAAAAAAAAAAA")

/-- It is accepted, and verifying any password with it panics. -/
theorem stray_hash_panics :
    parsePHC strayHash =
        some (⟨65536, 0, 0, 16, 32⟩, List.replicate 16 0, List.replicate 32 0) ∧
      ∀ (hasher : PasswordHasher) (argon2 : Argon2) (password : Octets),
        hasher.verify argon2 .entered password strayHash = .panicked := by
  have parsed : parsePHC strayHash =
      some (⟨65536, 0, 0, 16, 32⟩, List.replicate 16 0, List.replicate 32 0) := by
    decide +kernel
  refine ⟨parsed, ?_⟩
  intro hasher argon2 password
  simp [PasswordHasher.verify, parsed, Argon2.idKey]

/-! ## A hash verifies -/

/-- A parameter as `Hash` prints it. -/
def Parameter.ofNat (name : String) (value : Nat)
    (plain : 36 ∉ octets name ∧ 44 ∉ octets name ∧ 61 ∉ octets name) (positive : 0 < value)
    (small : value < 2 ^ 32) : Parameter where
  name := octets name
  digits := printed value
  name_plain := plain
  digits_plain := by
    refine ⟨?_, fun digit => isDigit_of_mem_printed⟩
    rw [printed, ne_eq, List.map_eq_nil_iff]
    exact Nat.toDigits_ne_nil
  value_bounded := by
    rw [number_printed]
    exact ⟨positive, small⟩

/-- The hash that is printed for parameters within the limits. -/
theorem exists_phc_of_withinLimits {params : Argon2Params} {salt digest : Bytes}
    (within : WithinLimits params salt digest) (isSalt : salt.length = params.saltLen.toNat)
    (isDigest : digest.length = params.keyLen.toNat) :
    ∃ phc : PHC, formatPHC params salt digest = phc.text ∧ phc.params = params ∧ phc.salt = salt ∧
      phc.digest = digest := by
  obtain ⟨memory, time, threads, saltLength, digestLength⟩ := within
  have plain : ∀ name ∈ ["m", "t", "p"],
      36 ∉ octets name ∧ 44 ∉ octets name ∧ 61 ∉ octets name := by decide
  let parameters : List Parameter :=
    [.ofNat "m" params.memoryKiB.toNat (plain _ (by simp)) (by omega) (by omega),
      .ofNat "t" params.time.toNat (plain _ (by simp)) (by omega) (by omega),
      .ofNat "p" params.threads.toNat (plain _ (by simp)) (by omega) (by omega)]
  have entries : parameters.map Parameter.entry =
      [(octets "m", params.memoryKiB.toNat), (octets "t", params.time.toNat),
        (octets "p", params.threads.toNat)] := by
    simp [parameters, Parameter.entry, Parameter.ofNat, number_printed]
  have isMemory : Parameter.among parameters "m" = params.memoryKiB.toNat := by
    rw [Parameter.among, entries]
    rfl
  have isTime : Parameter.among parameters "t" = params.time.toNat := by
    rw [Parameter.among, entries]
    rfl
  have isThreads : Parameter.among parameters "p" = params.threads.toNat := by
    rw [Parameter.among, entries]
    rfl
  have distinct : (parameters.map (·.name)).Nodup := by
    show [octets "m", octets "t", octets "p"].Nodup
    decide
  let phc : PHC :=
    { parameters := parameters, saltText := encodeRawStd salt, digestText := encodeRawStd digest
      salt := salt, digest := digest, three := rfl, distinct := distinct
      memory := isMemory ▸ memory, time := isTime ▸ time.2, threads := isThreads ▸ threads.2
      salt_decoded := decodeRawStd_encodeRawStd salt, salt_length := saltLength
      digest_decoded := decodeRawStd_encodeRawStd digest, digest_length := digestLength }
  refine ⟨phc, ?_, ?_, rfl, rfl⟩
  · have start : octets "$argon2id$v=19$m=" =
        36 :: octets "argon2id" ++ 36 :: octets "v=19" ++ 36 :: octets "m" ++ [61] := by decide
    have second : octets ",t=" = 44 :: octets "t" ++ [61] := by decide
    have third : octets ",p=" = 44 :: octets "p" ++ [61] := by decide
    have dollar : octets "$" = [36] := by decide
    simp [phc, formatPHC, PHC.text, parameters, Parameter.text, Parameter.ofNat, List.intercalate,
      start, second, third, dollar]
  · simp only [PHC.params, phc, isMemory, isTime, isThreads, isSalt, isDigest]
    simp

/-- What `Hash` writes, `parsePHC` reads. -/
theorem parsePHC_hash (hasher : PasswordHasher) (argon2 : Argon2) {password salt text : Octets}
    (memory : 8192 ≤ hasher.params.memoryKiB.toNat ∧ hasher.params.memoryKiB.toNat ≤ 1048576)
    (time : hasher.params.time.toNat ≤ 20) (threads : hasher.params.threads.toNat ≤ 32)
    (isSalt : salt.length = hasher.params.saltLen.toNat)
    (hashed : hasher.hash argon2 .entered password salt = .done text) :
    parsePHC text = some (hasher.params, salt, argon2.key password salt hasher.params.time
      hasher.params.memoryKiB hasher.params.threads hasher.params.keyLen) := by
  obtain ⟨_, rounds, parallel⟩ := hasher.positive
  simp only [PasswordHasher.hash, Argon2.idKey, hasher.calls] at hashed
  cases hashed
  have isDigest := argon2.key_length password salt hasher.params.time hasher.params.memoryKiB
    hasher.params.threads hasher.params.keyLen
  generalize argon2.key password salt hasher.params.time hasher.params.memoryKiB
    hasher.params.threads hasher.params.keyLen = digest at isDigest ⊢
  have within : WithinLimits hasher.params salt digest := by
    have timeLow : 0 < hasher.params.time.toNat := UInt32.pos_iff_ne_zero.mpr rounds
    have threadsLow : 0 < hasher.params.threads.toNat := UInt8.pos_iff_ne_zero.mpr parallel
    have saltBounds := hasher.saltLen_bounded
    have keyBounds := hasher.keyLen_bounded
    rw [UInt32.le_iff_toNat_le, UInt32.le_iff_toNat_le] at saltBounds keyBounds
    exact ⟨memory, ⟨timeLow, time⟩, ⟨threadsLow, threads⟩, isSalt ▸ saltBounds, isDigest ▸ keyBounds⟩
  obtain ⟨phc, isText, isParams, saltRead, digestRead⟩ :=
    exists_phc_of_withinLimits within isSalt isDigest
  have parsed := phc.parsePHC_text
  rwa [← isText, isParams, saltRead, digestRead] at parsed

/-- Whether a password matches a hash that was written under any parameters is always answered. -/
theorem verify_hash_done (writer hasher : PasswordHasher) (argon2 : Argon2)
    {password presented salt text : Octets}
    (memory : 8192 ≤ writer.params.memoryKiB.toNat ∧ writer.params.memoryKiB.toNat ≤ 1048576)
    (time : writer.params.time.toNat ≤ 20) (threads : writer.params.threads.toNat ≤ 32)
    (isSalt : salt.length = writer.params.saltLen.toNat)
    (hashed : writer.hash argon2 .entered password salt = .done text) :
    ∃ answer, hasher.verify argon2 .entered presented text = .done answer := by
  have parsed := parsePHC_hash writer argon2 memory time threads isSalt hashed
  simp only [PasswordHasher.verify, parsed, Argon2.idKey, writer.calls, ne_eq, not_true_eq_false,
    if_false, Bool.false_eq_true]
  exact ⟨_, rfl⟩

/-- The comparison of `Verify`. -/
theorem Argon2Params.bne_eq (stored current : Argon2Params) :
    (stored != current) = (stored.memoryKiB != current.memoryKiB || stored.time != current.time ||
      stored.threads != current.threads || stored.saltLen != current.saltLen ||
      stored.keyLen != current.keyLen) := by
  cases stored
  cases current
  rw [Bool.eq_iff_iff]
  simp only [bne_iff_ne, ne_eq, Argon2Params.mk.injEq, not_and_or, Bool.or_eq_true, or_assoc]

/-- A hash that one configuration wrote, verified under another one: the presented password matches
exactly when its key is the stored one, and a match asks for a new hash exactly when the two
configurations differ. -/
theorem verify_written_hash (writer hasher : PasswordHasher) (argon2 : Argon2)
    {password presented salt text : Octets}
    (memory : 8192 ≤ writer.params.memoryKiB.toNat ∧ writer.params.memoryKiB.toNat ≤ 1048576)
    (time : writer.params.time.toNat ≤ 20) (threads : writer.params.threads.toNat ≤ 32)
    (isSalt : salt.length = writer.params.saltLen.toNat)
    (hashed : writer.hash argon2 .entered password salt = .done text) :
    let key (password : Octets) := argon2.key password salt writer.params.time
      writer.params.memoryKiB writer.params.threads writer.params.keyLen
    hasher.verify argon2 .entered presented text =
      .done (key presented == key password,
        key presented == key password && writer.params != hasher.params) := by
  intro key
  have parsed := parsePHC_hash writer argon2 memory time threads isSalt hashed
  have sameKeyLen : (key password).length.toUInt32 = writer.params.keyLen := by
    rw [argon2.key_length]
    simp
  have sameSaltLen : salt.length.toUInt32 = writer.params.saltLen := by
    rw [isSalt]
    simp
  simp only [PasswordHasher.verify, parsed, Argon2.idKey, writer.calls, sameSaltLen, ne_eq,
    not_true_eq_false, if_false, Bool.false_eq_true, Argon2Params.bne_eq]
  rw [show (argon2.key password salt writer.params.time writer.params.memoryKiB writer.params.threads
    writer.params.keyLen).length.toUInt32 = _ from sameKeyLen]

namespace Sample

/-- A toy key: the password, cut or filled with zeros. -/
def argon2 : Argon2 where
  key password _ _ _ _ keyLen := (password ++ List.replicate keyLen.toNat 0).take keyLen.toNat
  key_length password salt time memory threads keyLen := by simp

def twoRounds : PasswordHasher :=
  ⟨⟨65536, 2, 1, 16, 32⟩, by decide, by decide, by decide⟩

def threeRounds : PasswordHasher :=
  ⟨⟨65536, 3, 1, 16, 32⟩, by decide, by decide, by decide⟩

end Sample

/-- A password set under two rounds, presented under three, and another one. -/
theorem verify_written_hash_sample :
    ∃ text, Sample.twoRounds.hash Sample.argon2 .entered [97] (List.replicate 16 0) = .done text ∧
      Sample.threeRounds.verify Sample.argon2 .entered [97] text = .done (true, true) ∧
      Sample.threeRounds.verify Sample.argon2 .entered [98] text = .done (false, false) :=
  ⟨_, rfl,
    verify_written_hash Sample.twoRounds Sample.threeRounds Sample.argon2 (by decide) (by decide)
      (by decide) rfl rfl,
    verify_written_hash Sample.twoRounds Sample.threeRounds Sample.argon2 (by decide) (by decide)
      (by decide) rfl rfl⟩

end OneIssuer.Identity
