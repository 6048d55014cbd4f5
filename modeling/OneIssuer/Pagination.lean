import Mathlib.Tactic.Ring
import OneIssuer.Relational.Keyset
import OneIssuer.Token.Base64

/-!
# Cursors

The opaque cursor of the lists: a version byte, the instant of a row in nanoseconds and its
identifier, in URL-safe base64. `decode_encode` says what comes back from a cursor: the instant is
kept modulo 2⁶⁴ nanoseconds, and an identifier of zero or an instant outside the years 2000 to 9999
is refused. `cursor_codec` says that texts and the positions 64 bits can represent correspond one to
one.

**What it does not establish.** That a cursor came from this server: cursors are not signed.
-/

set_option autoImplicit false

namespace OneIssuer.Pagination

open OneIssuer.Token (encodeRawURL decodeRawURL decodeRawURL_encodeRawURL)

/-! ## Numbers as bytes -/

/-- The last `width` bytes of a number, the most significant first. -/
def bigEndian : Nat → Nat → Bytes
  | 0, _ => []
  | width + 1, value => UInt8.ofNat (value / 256 ^ width) :: bigEndian width value

/-- The number that bytes spell, the most significant first. -/
def bigEndianValue (bytes : Bytes) : Nat := bytes.foldl (fun value b => value * 256 + b.toNat) 0

@[simp] theorem length_bigEndian (width value : Nat) : (bigEndian width value).length = width := by
  induction width with
  | zero => rfl
  | succ width ih => rw [bigEndian, List.length_cons, ih]

theorem foldl_bigEndian (width value start : Nat) :
    (bigEndian width value).foldl (fun value b => value * 256 + b.toNat) start =
      start * 256 ^ width + value % 256 ^ width := by
  induction width generalizing start with
  | zero => simp [bigEndian, Nat.mod_one]
  | succ width ih =>
    have split : value % 256 ^ (width + 1) =
        value % 256 ^ width + 256 ^ width * (value / 256 ^ width % 256) := Nat.mod_pow_succ
    have byte : (UInt8.ofNat (value / 256 ^ width)).toNat = value / 256 ^ width % 256 :=
      UInt8.toNat_ofNat'
    rw [bigEndian, List.foldl_cons, ih, byte, split, pow_succ]
    ring

@[simp] theorem bigEndianValue_bigEndian (width value : Nat) :
    bigEndianValue (bigEndian width value) = value % 256 ^ width := by
  rw [bigEndianValue, foldl_bigEndian]
  omega

theorem foldl_bytes (bytes : Bytes) (start : Nat) :
    bytes.foldl (fun value b => value * 256 + b.toNat) start =
      start * 256 ^ bytes.length + bigEndianValue bytes := by
  induction bytes generalizing start with
  | nil => simp [bigEndianValue]
  | cons first rest ih =>
    rw [bigEndianValue, List.foldl_cons, List.foldl_cons, ih (start * 256 + first.toNat),
      ih (0 * 256 + first.toNat), List.length_cons, pow_succ]
    ring

theorem bigEndianValue_cons (first : UInt8) (rest : Bytes) :
    bigEndianValue (first :: rest) = first.toNat * 256 ^ rest.length + bigEndianValue rest := by
  rw [bigEndianValue, List.foldl_cons, foldl_bytes, Nat.zero_mul, Nat.zero_add]

theorem bigEndianValue_lt (bytes : Bytes) : bigEndianValue bytes < 256 ^ bytes.length := by
  induction bytes with
  | nil => exact Nat.one_pos
  | cons first rest ih =>
    have small := first.toNat_lt
    calc bigEndianValue (first :: rest)
        = first.toNat * 256 ^ rest.length + bigEndianValue rest := bigEndianValue_cons first rest
      _ < first.toNat * 256 ^ rest.length + 256 ^ rest.length := Nat.add_lt_add_left ih _
      _ = (first.toNat + 1) * 256 ^ rest.length := by ring
      _ ≤ 256 * 256 ^ rest.length := Nat.mul_le_mul_right _ (by omega)
      _ = 256 ^ (first :: rest).length := by rw [List.length_cons, pow_succ, Nat.mul_comm]

/-- What stands above the last bytes does not show in them. -/
theorem bigEndian_add_mul (width value above : Nat) :
    bigEndian width (above * 256 ^ width + value) = bigEndian width value := by
  induction width generalizing above with
  | zero => rfl
  | succ width ih =>
    have shifted : above * 256 ^ (width + 1) + value = (above * 256) * 256 ^ width + value := by
      rw [pow_succ]
      ring
    have byte : UInt8.ofNat (((above * 256) * 256 ^ width + value) / 256 ^ width) =
        UInt8.ofNat (value / 256 ^ width) := by
      rw [Nat.add_comm, Nat.add_mul_div_right _ _ (Nat.pow_pos (by decide))]
      rw [← UInt8.toNat_inj, UInt8.toNat_ofNat', UInt8.toNat_ofNat']
      omega
    rw [bigEndian, bigEndian, shifted, byte, ih]

/-- The bytes of the number that bytes spell. -/
theorem bigEndian_bigEndianValue (bytes : Bytes) : bigEndian bytes.length (bigEndianValue bytes) = bytes := by
  induction bytes with
  | nil => rfl
  | cons first rest ih =>
    have leading : (first.toNat * 256 ^ rest.length + bigEndianValue rest) / 256 ^ rest.length =
        first.toNat := by
      rw [Nat.add_comm, Nat.add_mul_div_right _ _ (Nat.pow_pos (by decide)),
        Nat.div_eq_of_lt (bigEndianValue_lt rest), Nat.zero_add]
    rw [List.length_cons, bigEndian, bigEndianValue_cons, leading, bigEndian_add_mul, ih,
      UInt8.ofNat_toNat]

/-! ## Instants -/

/-- `time.Time.UnixNano`, before it is cut to 64 bits. -/
def unixNano (t : Time) : Int := t - Time.ofUnix 0

/-- `time.Unix(0, nanos)`. -/
def ofUnixNano (nanos : Int) : Time := nanos + Time.ofUnix 0

/-- The first instant of the year 2000. -/
def year2000 : Time := Time.ofUnix 946684800

/-- The first instant of the year 10000. -/
def year10000 : Time := Time.ofUnix 253402300800

/-- `uint64(value)` of an `int64`. -/
def uint64 (value : Int) : Nat := (value % 2 ^ 64).toNat

/-- `int64(value)`: the number with the same low 64 bits. -/
def int64 (value : Int) : Int := value.bmod (2 ^ 64)

theorem int64_uint64 (value : Int) : int64 (uint64 value) = int64 value := by
  have nonneg : 0 ≤ value % 2 ^ 64 := Int.emod_nonneg value (by decide)
  rw [int64, uint64, Int.toNat_of_nonneg nonneg]
  exact Int.emod_bmod value (2 ^ 64)

theorem uint64_int64 {value : Nat} (small : value < 256 ^ 8) : uint64 (int64 value) = value := by
  have same : (value : Int).bmod (2 ^ 64) % ((2 ^ 64 : Nat) : Int) = value % ((2 ^ 64 : Nat) : Int) :=
    Int.bmod_emod
  rw [uint64, int64]
  omega

theorem int64_bounds (value : Int) : int64 value < 2 ^ 63 := by
  have bound := Int.bmod_lt (x := value) (m := 2 ^ 64) (by decide)
  rw [int64]
  omega

theorem uint64_lt (value : Int) : uint64 value < 256 ^ 8 := by
  have bound : value % 2 ^ 64 < 2 ^ 64 := Int.emod_lt_of_pos value (by decide)
  have nonneg : 0 ≤ value % 2 ^ 64 := Int.emod_nonneg value (by decide)
  rw [uint64]
  omega

/-! ## The cursor -/

/-- `pagination.Cursor`. -/
structure Cursor where
  time : Time
  id : Uuid
  deriving DecidableEq, Repr

/-- `pagination.ErrInvalidCursor`. -/
inductive CursorError where
  | invalidCursor
  deriving DecidableEq, Repr

/-- The 25 bytes of a cursor. -/
def payload (cursor : Cursor) : Bytes :=
  1 :: (bigEndian 8 (uint64 (unixNano cursor.time)) ++ bigEndian 16 cursor.id)

/-- `Encode`. -/
def encode (cursor : Cursor) : String := String.ofList (encodeRawURL (payload cursor))

/-- `Decode`; the empty text is the zero cursor. -/
def decode (raw : String) : Except CursorError Cursor :=
  if raw == "" then .ok ⟨0, Uuid.nil⟩
  else
    match decodeRawURL raw.toList with
    | none => .error .invalidCursor
    | some bytes =>
      if bytes.length != 25 || bytes.head? != some 1 then .error .invalidCursor
      else if String.ofList (encodeRawURL bytes) != raw then .error .invalidCursor
      else
        let id := bigEndianValue (bytes.drop 9)
        if id == Uuid.nil then .error .invalidCursor
        else
          let value := ofUnixNano (int64 (bigEndianValue ((bytes.drop 1).take 8)))
          -- a year before 2000 or after 9999
          if value < year2000 || year10000 ≤ value then .error .invalidCursor
          else .ok ⟨value, id⟩

/-- `Limit`. -/
def limit (requested : Int) : Int :=
  if requested ≤ 0 then 20 else if requested > 100 then 100 else requested

theorem limit_of_valid {requested : Int} (least : 1 ≤ requested) (most : requested ≤ 100) :
    limit requested = requested := by
  rw [limit, if_neg (by omega), if_neg (by omega)]

theorem length_payload (cursor : Cursor) : (payload cursor).length = 25 := by simp [payload]

theorem encode_ne_empty (cursor : Cursor) : encode cursor ≠ "" := by
  intro isEmpty
  have none : encodeRawURL (payload cursor) = [] := by
    simpa [encode] using congrArg String.toList isEmpty
  have decoded := decodeRawURL_encodeRawURL (payload cursor)
  rw [none] at decoded
  cases decoded

/-- The instant a cursor gives back. -/
def carriedTime (t : Time) : Time := ofUnixNano (int64 (unixNano t))

/-- What a cursor gives back. -/
theorem decode_encode (cursor : Cursor) :
    decode (encode cursor) =
      if cursor.id % 256 ^ 16 = 0 ∨ carriedTime cursor.time < year2000 ∨
          year10000 ≤ carriedTime cursor.time then .error .invalidCursor
      else .ok ⟨carriedTime cursor.time, cursor.id % 256 ^ 16⟩ := by
  have bytes : decodeRawURL (encode cursor).toList = some (payload cursor) := by
    rw [encode, String.toList_ofList]
    exact decodeRawURL_encodeRawURL _
  have version : (payload cursor).head? = some 1 := rfl
  have idBytes : (payload cursor).drop 9 = bigEndian 16 cursor.id := by
    simp [payload]
  have timeBytes : ((payload cursor).drop 1).take 8 = bigEndian 8 (uint64 (unixNano cursor.time)) := by
    simp [payload]
  have time : int64 (bigEndianValue ((payload cursor).drop 1 |>.take 8)) =
      int64 (unixNano cursor.time) := by
    rw [timeBytes, bigEndianValue_bigEndian, Nat.mod_eq_of_lt (uint64_lt _), int64_uint64]
  have canonical : String.ofList (encodeRawURL (payload cursor)) = encode cursor := rfl
  rw [decode, if_neg (by simpa using encode_ne_empty cursor), bytes]
  simp only [length_payload, version, canonical, time, idBytes, bigEndianValue_bigEndian,
    bne_self_eq_false, Bool.or_self, Bool.false_eq_true, if_false, beq_iff_eq, Uuid.nil,
    Bool.or_eq_true, decide_eq_true_eq]
  by_cases isNil : cursor.id % 256 ^ 16 = 0
  · rw [if_pos isNil, if_pos (Or.inl isNil)]
  · simp only [isNil, if_false, false_or, carriedTime]

/-- A row of a real identifier and an instant between 2000 and the end of the 64-bit nanoseconds
comes back as it is. -/
theorem decode_encode_modern {cursor : Cursor} (present : cursor.id ≠ 0)
    (isUuid : cursor.id < 256 ^ 16) (recent : year2000 ≤ cursor.time)
    (representable : unixNano cursor.time < 2 ^ 63) : decode (encode cursor) = .ok cursor := by
  have small : cursor.id % 256 ^ 16 = cursor.id := Nat.mod_eq_of_lt isUuid
  have since : 0 ≤ unixNano cursor.time := by
    simp only [year2000, unixNano, Time.ofUnix, seconds] at recent ⊢
    lia
  have carried : carriedTime cursor.time = cursor.time := by
    rw [carriedTime, int64, Int.bmod_eq_of_le (by omega) (by omega), ofUnixNano, unixNano]
    lia
  have before : cursor.time < year10000 := by
    simp only [year10000, unixNano, Time.ofUnix, seconds] at representable ⊢
    lia
  rw [decode_encode, carried, small, if_neg]
  rintro (isNil | early | late)
  · exact present isNil
  · exact absurd recent (not_le.mpr early)
  · exact absurd before (not_lt.mpr late)

/-- The cursors of real rows: their identifier is a UUID, not the zero one, and their instant lies between
the year 2000 and the last one of the 64-bit nanoseconds, in 2262. -/
structure Cursor.Representable (cursor : Cursor) : Prop where
  present : cursor.id ≠ Uuid.nil
  isUuid : cursor.id < 256 ^ 16
  recent : year2000 ≤ cursor.time
  representable : unixNano cursor.time < 2 ^ 63

/-- A text that is accepted is the cursor it denotes. -/
theorem encode_decode {raw : String} {cursor : Cursor} (nonempty : raw ≠ "")
    (decoded : decode raw = .ok cursor) : cursor.Representable ∧ encode cursor = raw := by
  rw [decode, if_neg (by simpa using nonempty)] at decoded
  split at decoded
  · cases decoded
  rename_i bytes isBytes
  split at decoded
  · cases decoded
  rename_i shaped
  split at decoded
  · cases decoded
  rename_i canonical
  simp only at decoded
  split at decoded
  · cases decoded
  rename_i notNil
  split at decoded
  · cases decoded
  rename_i inRange
  simp only [Bool.or_eq_true, bne_iff_ne, ne_eq, not_or, not_not, beq_iff_eq, decide_eq_true_eq,
    not_lt, not_le] at shaped canonical notNil inRange
  obtain ⟨length, version⟩ := shaped
  obtain ⟨rest, rfl⟩ := List.head?_eq_some_iff.mp version
  have restLength : rest.length = 24 := by simpa using length
  have idBytes : (rest.drop 8).length = 16 := by simp [restLength]
  have timeBytes : (rest.take 8).length = 8 := by simp [restLength]
  have small := bigEndianValue_lt (rest.take 8)
  have isUuid := bigEndianValue_lt (rest.drop 8)
  have idBack := bigEndian_bigEndianValue (rest.drop 8)
  have timeBack := bigEndian_bigEndianValue (rest.take 8)
  rw [timeBytes] at small timeBack
  rw [idBytes] at isUuid idBack
  simp only [List.drop_succ_cons, List.drop_zero] at decoded notNil inRange
  obtain rfl := Except.ok.inj decoded
  have nanos : unixNano (ofUnixNano (int64 (bigEndianValue (rest.take 8)))) =
      int64 (bigEndianValue (rest.take 8)) := by
    rw [unixNano, ofUnixNano]
    lia
  refine ⟨⟨notNil, isUuid, inRange.1, ?_⟩, ?_⟩
  · rw [nanos]
    exact int64_bounds _
  · rw [encode, payload, nanos, uint64_int64 small, timeBack, idBack, List.take_append_drop]
    exact canonical

/-- The cursor codec is a bijection between the representable cursors and the texts other than the empty
one that `Decode` accepts. -/
theorem cursor_codec :
    (∀ cursor : Cursor, cursor.Representable → decode (encode cursor) = .ok cursor) ∧
    (∀ raw cursor, raw ≠ "" → decode raw = .ok cursor → cursor.Representable ∧ encode cursor = raw) ∧
    ∀ cursor : Cursor, cursor.Representable → ∃! raw, raw ≠ "" ∧ decode raw = .ok cursor := by
  have back : ∀ cursor : Cursor, cursor.Representable → decode (encode cursor) = .ok cursor :=
    fun cursor real => decode_encode_modern real.present real.isUuid real.recent real.representable
  refine ⟨back, fun raw cursor nonempty decoded => encode_decode nonempty decoded, ?_⟩
  intro cursor real
  refine ⟨encode cursor, ⟨encode_ne_empty cursor, back cursor real⟩, ?_⟩
  rintro raw ⟨nonempty, decoded⟩
  exact (encode_decode nonempty decoded).2.symm

theorem cursor_codec_first :
    Cursor.Representable ⟨year2000, 1⟩ ∧ decode (encode ⟨year2000, 1⟩) = .ok ⟨year2000, 1⟩ := by
  have real : Cursor.Representable ⟨year2000, 1⟩ := ⟨by decide, by decide, le_rfl, by decide⟩
  exact ⟨real, cursor_codec.1 _ real⟩

end OneIssuer.Pagination
