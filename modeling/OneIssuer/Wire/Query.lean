import Mathlib.Data.List.Induction
import Mathlib.Tactic.Common

/-!
# Texts on the wire

Query strings as octets, decoded as `net/url` does it, and the two small grammars that parameters are
written in: lists separated by single spaces, and decimals without leading zeros.
-/

set_option autoImplicit false

namespace OneIssuer.Wire

/-! ## Octets -/

/-- A Go string: any octets. -/
abbrev Octets := List UInt8

/-- The text of the octets, when they are UTF-8. -/
def text? (octets : Octets) : Option String := String.fromUTF8? ⟨octets.toArray⟩

/-- The octets of a text. -/
def octets (text : String) : Octets := text.toUTF8.data.toList

/-! ## Queries -/

/-- The value of a hexadecimal digit. -/
def unhex (octet : UInt8) : Option UInt8 :=
  if 48 ≤ octet && octet ≤ 57 then some (octet - 48)
  else if 97 ≤ octet && octet ≤ 102 then some (octet - 87)
  else if 65 ≤ octet && octet ≤ 70 then some (octet - 55)
  else none

/-- `url.QueryUnescape`: a plus is a space, and a percent sign needs two hexadecimal digits. -/
def queryUnescape : Octets → Option Octets
  | [] => some []
  | 37 :: high :: low :: rest =>
    match unhex high, unhex low, queryUnescape rest with
    | some high, some low, some rest => some ((high * 16 + low) :: rest)
    | _, _, _ => none
  | 37 :: _ => none
  | octet :: rest => (queryUnescape rest).map ((if octet == 43 then 32 else octet) :: ·)

/-- One key and value: everything after the first equals sign is the value. -/
def parsePair (segment : Octets) : Option (Octets × Octets) :=
  if segment.contains 59 then none
  else
    match queryUnescape (segment.takeWhile (· != 61)),
      queryUnescape ((segment.dropWhile (· != 61)).drop 1) with
    | some key, some value => some (key, value)
    | _, _ => none

/-- `url.ParseQuery` without error: the pairs between the ampersands, empty ones skipped. -/
def parseQuery (query : Octets) : Option (List (Octets × Octets)) :=
  ((query.splitOn 38).filter (!·.isEmpty)).mapM parsePair

/-- `url.Values`, in the order of the query. -/
abbrev Values := List (String × String)

/-- `values[name]`. -/
def Values.all (values : Values) (name : String) : List String :=
  (values.filter (·.1 == name)).map (·.2)

/-- `values.Get(name)`. -/
def Values.get (values : Values) (name : String) : String := (values.all name).headD ""

theorem Values.get_of_all {values : Values} {name value : String} (single : values.all name = [value]) :
    values.get name = value := by
  rw [Values.get, single]
  rfl

/-- A parameter that occurs once has the value `Get` returns. -/
theorem Values.all_of_length {values : Values} {name : String} (single : (values.all name).length = 1) :
    values.all name = [values.get name] := by
  obtain ⟨value, isAll⟩ := List.length_eq_one_iff.mp single
  rw [Values.get_of_all isAll, isAll]

/-! ## Decimals -/

/-- The number the decimal digits stand for. -/
def decimal (digits : List Char) : Nat := Nat.ofDigitChars 10 digits 0

/-- No leading zero, and only digits. -/
def isCanonicalDecimal (digits : List Char) : Bool :=
  !(digits.isEmpty || (digits.length > 1 && digits.head? == some '0')) && digits.all Char.isDigit

theorem digitChar_of_isDigit {c : Char} (isDigit : c.isDigit) :
    c.toNat - 48 < 10 ∧ Nat.digitChar (c.toNat - 48) = c := by
  have bounds : 48 ≤ c.toNat ∧ c.toNat ≤ 57 := by
    simp only [Char.isDigit, Bool.and_eq_true, decide_eq_true_eq, ge_iff_le,
      UInt32.le_iff_toNat_le] at isDigit
    exact isDigit
  have table : ∀ n < 10, Nat.digitChar n = Char.ofNat (n + 48) := by decide
  refine ⟨by omega, ?_⟩
  rw [table _ (by omega), Nat.sub_add_cancel bounds.1, Char.ofNat_toNat]

theorem decimal_append (digits : List Char) (c : Char) :
    decimal (digits ++ [c]) = 10 * decimal digits + (c.toNat - 48) :=
  Nat.ofDigitChars_append 0

/-- A text of digits that does not start with a zero stands for a positive number. -/
theorem decimal_pos {c : Char} (rest : List Char) (isDigit : c.isDigit) (notZero : c ≠ '0') :
    0 < decimal (c :: rest) := by
  induction rest using List.reverseRecOn with
  | nil =>
    have small := digitChar_of_isDigit isDigit
    rcases Nat.eq_zero_or_pos (c.toNat - 48) with zero | positive
    · rw [zero] at small
      exact absurd small.2.symm notZero
    · simpa [decimal, Nat.ofDigitChars] using positive
  | append_singleton rest last ih =>
    rw [← List.cons_append, decimal_append]
    omega

/-- A positive number is not printed with a leading zero. -/
theorem toDigits_head {n : Nat} (positive : 0 < n) : (Nat.toDigits 10 n).head? ≠ some '0' := by
  induction n using Nat.strongRecOn with
  | _ n ih =>
    rw [Nat.toDigits_eq_if (by omega)]
    split
    · rename_i small
      have table : ∀ n < 10, 0 < n → Nat.digitChar n ≠ '0' := by decide
      simpa using table n small positive
    · have leading := ih (n / 10) (by omega) (by omega)
      have nonempty : Nat.toDigits 10 (n / 10) ≠ [] := Nat.toDigits_ne_nil
      obtain ⟨first, rest, isDigits⟩ := List.exists_cons_of_ne_nil nonempty
      rw [isDigits] at leading ⊢
      exact leading

/-- The canonical decimals are those that Go prints. -/
theorem isCanonicalDecimal_iff {digits : List Char} :
    isCanonicalDecimal digits ↔ digits = Nat.toDigits 10 (decimal digits) := by
  simp only [isCanonicalDecimal, Bool.and_eq_true, Bool.not_eq_true', Bool.or_eq_false_iff,
    List.isEmpty_eq_false_iff, List.all_eq_true, Bool.and_eq_false_iff, decide_eq_false_iff_not,
    beq_eq_false_iff_ne]
  constructor
  · rintro ⟨⟨nonempty, noZero⟩, areDigits⟩
    induction digits using List.reverseRecOn with
    | nil => exact absurd rfl nonempty
    | append_singleton init c ih =>
      obtain ⟨small, isChar⟩ := digitChar_of_isDigit (areDigits c (by simp))
      rw [decimal_append]
      cases init with
      | nil =>
        have : 10 * decimal [] + (c.toNat - 48) = c.toNat - 48 := by simp [decimal]
        rw [this, Nat.toDigits_of_lt_base small, isChar]
        rfl
      | cons first rest =>
        have leading : first ≠ '0' := by
          rintro rfl
          rcases noZero with short | headed
          · simp at short
          · simp at headed
        have isInit := ih (fun d member => areDigits d (List.mem_append_left _ member)) nofun
          (Or.inr (by simpa using leading))
        have positive := decimal_pos rest (areDigits first (by simp)) leading
        rw [← Nat.toDigits_append_toDigits (by omega) positive small, ← isInit,
          Nat.toDigits_of_lt_base small, isChar]
  · intro printed
    refine ⟨⟨?_, ?_⟩, ?_⟩
    · rw [printed]
      exact Nat.toDigits_ne_nil
    · rw [printed]
      rcases Nat.eq_zero_or_pos (decimal digits) with zero | positive
      · exact Or.inl (by rw [zero]; decide)
      · exact Or.inr (toDigits_head positive)
    · intro c member
      rw [printed] at member
      exact Nat.isDigit_of_mem_toDigits (by omega) (by omega) member

end OneIssuer.Wire
