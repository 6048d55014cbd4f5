import Mathlib.Algebra.Group.Nat.Defs
import OneIssuer.Wire.Query

/-!
# Cutting texts

The functions of `strings` and `strconv` that take a text apart, on octets: `Cut`, `Split` and
`ParseUint`, each with the lemma that says which texts it takes apart how.
-/

set_option autoImplicit false

namespace OneIssuer.Wire

/-! ## Texts -/

/-- The text of octets is the text with these octets. -/
theorem text?_eq_some {bytes : Octets} {text : String} :
    text? bytes = some text ↔ bytes = octets text := by
  have isBytes : (⟨(octets text).toArray⟩ : ByteArray) = text.toByteArray := by
    simp [octets]
  rw [text?, String.fromUTF8?]
  constructor
  · intro found
    split at found
    · cases found
      simp [octets, String.fromUTF8]
    · cases found
  · rintro rfl
    have isValid : (⟨(octets text).toArray⟩ : ByteArray).IsValidUTF8 := isBytes ▸ text.isValidUTF8
    rw [dif_pos isValid, Option.some.injEq, ← String.toByteArray_inj]
    exact isBytes

/-- The octets of a text are those of its characters. -/
theorem octets_eq_flatMap (text : String) : octets text = text.toList.flatMap String.utf8EncodeChar := by
  have encoded : text.toByteArray = text.toList.utf8Encode := by
    rw [← String.toByteArray_ofList, String.ofList_toList]
  rw [octets, String.toUTF8, encoded, List.utf8Encode, List.data_toByteArray]

theorem utf8EncodeChar_ne_nil (c : Char) : String.utf8EncodeChar c ≠ [] := by
  simp only [String.utf8EncodeChar]
  repeat' split
  all_goals simp

theorem length_le_octets (text : String) : text.length ≤ (octets text).length := by
  rw [octets_eq_flatMap, ← String.length_toList]
  induction text.toList with
  | nil => exact Nat.zero_le _
  | cons c text ih =>
    have one := List.length_pos_iff.mpr (utf8EncodeChar_ne_nil c)
    rw [List.flatMap_cons, List.length_append, List.length_cons]
    omega

/-- The first character of an encoded text is determined. -/
theorem utf8EncodeChar_append_inj {c d : Char} {left right : Octets}
    (same : String.utf8EncodeChar c ++ left = String.utf8EncodeChar d ++ right) : c = d := by
  have decoded (c : Char) (rest : Octets) :
      ByteArray.utf8DecodeChar? (String.utf8EncodeChar c ++ rest).toByteArray 0 = some c := by
    rw [List.toByteArray_append]
    exact ByteArray.utf8DecodeChar?_utf8EncodeChar_append
  have both := decoded c left
  rw [same, decoded d right] at both
  exact (Option.some.inj both).symm

/-- A text starts with another exactly when its octets do. -/
theorem octets_prefix_iff {start text : String} :
    octets start <+: octets text ↔ start.toList <+: text.toList := by
  rw [octets_eq_flatMap, octets_eq_flatMap]
  generalize start.toList = start
  generalize text.toList = text
  constructor
  · intro isStart
    induction start generalizing text with
    | nil => exact List.nil_prefix
    | cons c start ih =>
      obtain ⟨rest, isText⟩ := isStart
      rw [List.flatMap_cons, List.append_assoc] at isText
      cases text with
      | nil =>
        have empty := List.append_eq_nil_iff.mp isText
        exact absurd empty.1 (utf8EncodeChar_ne_nil c)
      | cons d text =>
        rw [List.flatMap_cons] at isText
        obtain rfl := utf8EncodeChar_append_inj isText
        exact (List.prefix_cons_inj c).mpr (ih text ⟨rest, List.append_cancel_left isText⟩)
  · rintro ⟨rest, rfl⟩
    rw [List.flatMap_append]
    exact List.prefix_append _ _

/-! ## Separators -/

/-- `strings.Cut` at the first separator. -/
def cut (separator : UInt8) : Octets → Option (Octets × Octets)
  | [] => none
  | octet :: rest =>
    if octet == separator then some ([], rest)
    else (cut separator rest).map fun (before, after) => (octet :: before, after)

theorem cut_eq_none {separator : UInt8} {text : Octets} : cut separator text = none ↔ separator ∉ text := by
  induction text with
  | nil => simp [cut]
  | cons octet rest ih =>
    by_cases found : octet = separator
    · simp [cut, found]
    · simp [cut, found, ih, Ne.symm found]

theorem cut_eq_some {separator : UInt8} {text before after : Octets} :
    cut separator text = some (before, after) ↔
      text = before ++ separator :: after ∧ separator ∉ before := by
  induction text generalizing before with
  | nil => simp [cut]
  | cons octet rest ih =>
    by_cases found : octet = separator
    · subst found
      cases before with
      | nil => simp [cut]
      | cons first before =>
        simp only [cut, beq_self_eq_true, if_true, Option.some.injEq, Prod.mk.injEq,
          List.nil_eq, reduceCtorEq, false_and, List.cons_append, List.cons.injEq, List.mem_cons,
          not_or, false_iff, not_and]
        intro same differs
        exact absurd same.1 differs
    · cases before with
      | nil => simp [cut, found]
      | cons first before =>
        simp only [cut, beq_iff_eq, found, if_false, Option.map_eq_some_iff, Prod.exists,
          Prod.mk.injEq, List.cons.injEq, List.cons_append, List.mem_cons, not_or]
        constructor
        · rintro ⟨before, after, isCut, ⟨rfl, rfl⟩, rfl⟩
          obtain ⟨isRest, notIn⟩ := ih.mp isCut
          exact ⟨⟨rfl, isRest⟩, Ne.symm found, notIn⟩
        · rintro ⟨⟨rfl, isRest⟩, _, notIn⟩
          exact ⟨before, after, ih.mpr ⟨isRest, notIn⟩, ⟨rfl, rfl⟩, rfl⟩

/-- No part of a split text has the separator. -/
theorem not_mem_of_mem_splitOn {separator : UInt8} {text part : Octets}
    (member : part ∈ text.splitOn separator) : separator ∉ part := by
  induction text generalizing part with
  | nil =>
    rw [List.splitOn_nil, List.mem_singleton] at member
    simp [member]
  | cons octet rest ih =>
    rw [List.splitOn_cons_eq_if_modifyHead] at member
    by_cases found : octet = separator
    · simp only [found, beq_self_eq_true, if_true, List.mem_cons] at member
      rcases member with rfl | member
      · exact List.not_mem_nil
      · exact ih member
    · simp only [beq_iff_eq, found, if_false] at member
      obtain ⟨first, others, isSplit⟩ := List.exists_cons_of_ne_nil (List.splitOn_ne_nil separator rest)
      rw [isSplit, List.modifyHead_cons, List.mem_cons] at member
      rcases member with rfl | member
      · rw [List.mem_cons, not_or]
        exact ⟨Ne.symm found, ih (isSplit ▸ List.mem_cons_self)⟩
      · exact ih (isSplit ▸ List.mem_cons_of_mem _ member)

/-- What is in a part is in the text. -/
theorem mem_of_mem_splitOn {separator octet : UInt8} {text part : Octets}
    (member : part ∈ text.splitOn separator) (inside : octet ∈ part) : octet ∈ text := by
  induction text generalizing part with
  | nil =>
    rw [List.splitOn_nil, List.mem_singleton] at member
    exact member ▸ inside
  | cons head rest ih =>
    rw [List.splitOn_cons_eq_if_modifyHead] at member
    by_cases found : head = separator
    · simp only [found, beq_self_eq_true, if_true, List.mem_cons] at member
      rcases member with rfl | member
      · cases inside
      · exact List.mem_cons_of_mem _ (ih member inside)
    · simp only [beq_iff_eq, found, if_false] at member
      obtain ⟨first, others, isSplit⟩ := List.exists_cons_of_ne_nil (List.splitOn_ne_nil separator rest)
      rw [isSplit, List.modifyHead_cons, List.mem_cons] at member
      rcases member with rfl | member
      · rcases List.mem_cons.mp inside with rfl | inside
        · exact List.mem_cons_self
        · exact List.mem_cons_of_mem _ (ih (isSplit ▸ List.mem_cons_self) inside)
      · exact List.mem_cons_of_mem _ (ih (isSplit ▸ List.mem_cons_of_mem _ member) inside)

/-- What is in a joined text is the separator or in a part. -/
theorem mem_intercalate {separator octet : UInt8} {parts : List Octets}
    (member : octet ∈ [separator].intercalate parts) :
    octet = separator ∨ ∃ part ∈ parts, octet ∈ part := by
  induction parts with
  | nil => cases member
  | cons first rest ih =>
    cases rest with
    | nil =>
      rw [List.intercalate_singleton] at member
      exact .inr ⟨first, List.mem_cons_self, member⟩
    | cons second rest =>
      rw [List.intercalate_cons_cons, List.mem_append, List.mem_append, List.mem_singleton] at member
      rcases member with (member | same) | member
      · exact .inr ⟨first, List.mem_cons_self, member⟩
      · exact .inl same
      · rcases ih member with same | ⟨part, inside, member⟩
        · exact .inl same
        · exact .inr ⟨part, List.mem_cons_of_mem _ inside, member⟩

/-! ## Numbers -/

/-- A decimal digit. -/
def isDigit (octet : UInt8) : Bool := 48 ≤ octet && octet ≤ 57

/-- The number that decimal digits stand for. -/
def number (digits : Octets) : Nat := digits.foldl (fun value digit => value * 10 + (digit.toNat - 48)) 0

/-- `strconv.ParseUint` with base 10. -/
def parseUint (bits : Nat) (text : Octets) : Option Nat :=
  if text.isEmpty || !text.all isDigit || 2 ^ bits ≤ number text then none else some (number text)

theorem parseUint_eq_some {bits value : Nat} {text : Octets} :
    parseUint bits text = some value ↔
      text ≠ [] ∧ (∀ digit ∈ text, isDigit digit) ∧ number text < 2 ^ bits ∧ number text = value := by
  simp only [parseUint, Option.ite_none_left_eq_some, Option.some.injEq, Bool.or_eq_true,
    List.isEmpty_iff, Bool.not_eq_true', List.all_eq_false, decide_eq_true_eq, not_or, not_exists,
    not_and, not_not, Nat.not_le, and_assoc]

/-- A number as Go prints it. -/
def printed (value : Nat) : Octets := (Nat.toDigits 10 value).map fun digit => digit.toNat.toUInt8

theorem isDigit_bounds {digit : Char} (isDigit : digit.isDigit) :
    48 ≤ digit.toNat ∧ digit.toNat ≤ 57 := by
  simp only [Char.isDigit, Bool.and_eq_true, decide_eq_true_eq, ge_iff_le,
    UInt32.le_iff_toNat_le] at isDigit
  exact isDigit

/-- The octets of printed digits are digits. -/
theorem isDigit_of_mem_printed {value : Nat} {octet : UInt8} (member : octet ∈ printed value) :
    isDigit octet := by
  obtain ⟨digit, inside, rfl⟩ := List.mem_map.mp member
  obtain ⟨low, high⟩ := isDigit_bounds (Nat.isDigit_of_mem_toDigits (by omega) (by omega) inside)
  have small : digit.toNat.toUInt8.toNat = digit.toNat := by
    rw [Nat.toUInt8, UInt8.toNat_ofNat', Nat.mod_eq_of_lt (by omega)]
  simp only [isDigit, Bool.and_eq_true, decide_eq_true_eq, UInt8.le_iff_toNat_le, small]
  exact ⟨low, high⟩

theorem number_printed (value : Nat) : number (printed value) = value := by
  have folded : ∀ (digits : List Char) (start : Nat), (∀ digit ∈ digits, digit.isDigit) →
      (digits.map fun digit => digit.toNat.toUInt8).foldl
        (fun value digit => value * 10 + (digit.toNat - 48)) start =
        Nat.ofDigitChars 10 digits start := by
    intro digits
    induction digits with
    | nil => exact fun _ _ => rfl
    | cons digit rest ih =>
      intro start areDigits
      obtain ⟨isDigit, areDigits⟩ := List.forall_mem_cons.mp areDigits
      obtain ⟨_, high⟩ := isDigit_bounds isDigit
      rw [List.map_cons, List.foldl_cons, Nat.ofDigitChars_cons, ih _ areDigits, Nat.toUInt8,
        UInt8.toNat_ofNat', Nat.mod_eq_of_lt (by omega), Nat.mul_comm]
      rfl
  rw [number, printed, folded _ _ fun digit inside =>
    Nat.isDigit_of_mem_toDigits (by omega) (by omega) inside]
  exact Nat.ofDigitChars_toDigits (by omega) (by omega)

end OneIssuer.Wire
