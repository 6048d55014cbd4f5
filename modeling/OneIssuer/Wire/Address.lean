import OneIssuer.Wire.Text

/-!
# Addresses

`net/netip` as far as a server reads addresses from texts: `ParseAddr` with its two notations,
`Unmap`, prefixes, and `net.SplitHostPort`.
-/

set_option autoImplicit false

namespace OneIssuer.Wire

/-! ## White space -/

/-- White space of one octet. -/
def isSpace1 (a : UInt8) : Bool := a == 32 || (9 ≤ a && a ≤ 13)

/-- White space of two octets: U+0085 and U+00A0. -/
def isSpace2 (a b : UInt8) : Bool := a == 0xc2 && (b == 0x85 || b == 0xa0)

/-- White space of three octets: U+1680, U+2000 to U+200A, U+2028, U+2029, U+202F, U+205F, U+3000. -/
def isSpace3 (a b c : UInt8) : Bool :=
  (a == 0xe1 && b == 0x9a && c == 0x80) ||
    (a == 0xe2 && b == 0x80 && ((0x80 ≤ c && c ≤ 0x8a) || c == 0xa8 || c == 0xa9 || c == 0xaf)) ||
    (a == 0xe2 && b == 0x81 && c == 0x9f) || (a == 0xe3 && b == 0x80 && c == 0x80)

/-- The text without the white space it starts with. -/
def trimLeft : Octets → Octets
  | a :: b :: c :: rest =>
    if isSpace1 a then trimLeft (b :: c :: rest)
    else if isSpace2 a b then trimLeft (c :: rest)
    else if isSpace3 a b c then trimLeft rest
    else a :: b :: c :: rest
  | [a, b] => if isSpace1 a then trimLeft [b] else if isSpace2 a b then [] else [a, b]
  | [a] => if isSpace1 a then [] else [a]
  | [] => []

/-- The same for a text that is written backwards. -/
def trimLeftBackwards : Octets → Octets
  | c :: b :: a :: rest =>
    if isSpace1 c then trimLeftBackwards (b :: a :: rest)
    else if isSpace2 b c then trimLeftBackwards (a :: rest)
    else if isSpace3 a b c then trimLeftBackwards rest
    else c :: b :: a :: rest
  | [b, a] => if isSpace1 b then trimLeftBackwards [a] else if isSpace2 a b then [] else [b, a]
  | [a] => if isSpace1 a then [] else [a]
  | [] => []

/-- `strings.TrimSpace`. -/
def trimSpace (text : Octets) : Octets := (trimLeftBackwards (trimLeft text).reverse).reverse

/-! ## Addresses -/

/-- `netip.Addr`. -/
inductive Addr where
  | invalid
  | v4 (bits : BitVec 32)
  | v6 (bits : BitVec 128) (zone : Octets)
  deriving DecidableEq, Repr

/-- `IsValid`. -/
def Addr.isValid : Addr → Bool
  | .invalid => false
  | _ => true

/-- `Unmap`: an IPv4-mapped IPv6 address is the IPv4 address. -/
def Addr.unmap : Addr → Addr
  | .v6 bits zone => if bits.extractLsb' 32 96 = 0xffff then .v4 (bits.setWidth 32) else .v6 bits zone
  | address => address

/-- The number of octets, the first one most significant. -/
def bigEndian (bytes : List UInt8) : Nat := bytes.foldl (fun value byte => value * 256 + byte.toNat) 0

/-- A field of an IPv4 address: a decimal up to 255 without leading zeros. -/
def parseIPv4Field (field : Octets) : Option UInt8 :=
  if field.isEmpty || !field.all isDigit || (1 < field.length && field.head? == some 48) ||
      255 < number field then none
  else some (number field).toUInt8

/-- `parseIPv4Fields`: four fields between dots. -/
def parseIPv4Fields (text : Octets) : Option (List UInt8) :=
  let fields := text.splitOn 46
  if fields.length != 4 then none else fields.mapM parseIPv4Field

/-- The number of hexadecimal digits. -/
def hexNumber (digits : Octets) : Nat :=
  digits.foldl (fun value digit => value * 16 + ((unhex digit).getD 0).toNat) 0

/-- The loop of `parseIPv6` while there is `room` for groups: the bytes so far, where the ellipsis is,
and what is left of the text. -/
def parseGroups : Nat → Octets → List UInt8 → Option Nat → Option (List UInt8 × Option Nat × Octets)
  | 0, text, bytes, ellipsis => some (bytes, ellipsis, text)
  | room + 1, text, bytes, ellipsis =>
    let digits := text.takeWhile fun octet => (unhex octet).isSome
    let rest := text.drop digits.length
    if digits.isEmpty || 4 < digits.length then none
    else if rest.head? == some 46 then
      -- The address may end with an IPv4 address.
      if (ellipsis.isNone && bytes.length != 12) || 16 < bytes.length + 4 then none
      else (parseIPv4Fields text).map fun fields => (bytes ++ fields, ellipsis, [])
    else
      let value := hexNumber digits
      let bytes := bytes ++ [(value / 256).toUInt8, value.toUInt8]
      match rest with
      | [] => some (bytes, ellipsis, [])
      | [_] => none
      | colon :: next :: rest =>
        if colon != 58 then none
        else if next != 58 then parseGroups room (next :: rest) bytes ellipsis
        else if ellipsis.isSome then none
        else if rest.isEmpty then some (bytes, some bytes.length, [])
        else parseGroups room rest bytes (some bytes.length)

/-- The sixteen bytes: the ellipsis stands for at least one group of zeros. -/
def expandEllipsis (bytes : List UInt8) : Option Nat → Option (List UInt8)
  | none => if bytes.length < 16 then none else some bytes
  | some position =>
    if bytes.length < 16 then
      some (bytes.take position ++ List.replicate (16 - bytes.length) 0 ++ bytes.drop position)
    else none

/-- The bytes of an IPv6 address without zone. -/
def parseIPv6Bytes (text : Octets) : Option (List UInt8) :=
  match text with
  | [58, 58] => some (List.replicate 16 0)
  | 58 :: 58 :: rest => (parseGroups 8 rest [] (some 0)).bind finish
  | text => (parseGroups 8 text [] none).bind finish
where
  finish : List UInt8 × Option Nat × Octets → Option (List UInt8)
    | (bytes, ellipsis, []) => expandEllipsis bytes ellipsis
    | _ => none

/-- `parseIPv6`: the zone is cut off first and is not empty. -/
def parseIPv6 (text : Octets) : Option Addr :=
  match cut 37 text with
  | none => (parseIPv6Bytes text).map fun bytes => .v6 (BitVec.ofNat 128 (bigEndian bytes)) []
  | some (_, []) => none
  | some (text, zone) =>
    (parseIPv6Bytes text).map fun bytes => .v6 (BitVec.ofNat 128 (bigEndian bytes)) zone

/-- `netip.ParseAddr`: the first dot, colon or percent sign decides about the notation. -/
def parseAddr (text : Octets) : Option Addr :=
  match text.find? fun octet => octet == 46 || octet == 58 || octet == 37 with
  | some 46 => (parseIPv4Fields text).map fun bytes => .v4 (BitVec.ofNat 32 (bigEndian bytes))
  | some 58 => parseIPv6 text
  | _ => none

/-! ## Prefixes -/

/-- `netip.Prefix` as `ParsePrefix` makes it: without zone, with at most as many bits as there are. -/
inductive Network where
  | v4 (bits : BitVec 32) (length : Fin 33)
  | v6 (bits : BitVec 128) (length : Fin 129)
  deriving DecidableEq, Repr

/-- `Contains`: the leading bits agree; an address with a zone is in no prefix. -/
def Network.contains : Network → Addr → Bool
  | .v4 bits length, .v4 address => (address ^^^ bits) >>> (32 - length.val) == 0
  | .v6 bits length, .v6 address [] => (address ^^^ bits) >>> (128 - length.val) == 0
  | _, _ => false

/-! ## Peers -/

/-- `net.SplitHostPort`. -/
def splitHostPort (hostport : Octets) : Option (Octets × Octets) :=
  match hostport with
  | 91 :: rest =>
    match cut 93 rest with
    | some (host, 58 :: port) =>
      if port.contains 58 || rest.contains 91 || port.contains 93 then none else some (host, port)
    | _ => none
  | hostport =>
    match cut 58 hostport with
    | some (host, port) =>
      if port.contains 58 || hostport.contains 91 || hostport.contains 93 then none
      else some (host, port)
    | none => none

end OneIssuer.Wire
