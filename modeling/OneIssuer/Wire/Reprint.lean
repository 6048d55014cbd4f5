import OneIssuer.Wire.Url

/-!
# Printing a parsed URL

A URL that was parsed, given another query and printed, is parsed again to the same scheme, host and
path. The one exception is the zone of an IPv6 address: `String` does not escape a bracket in it, and
escapes octets that are not ASCII, and `Parse` takes neither back.
-/

set_option autoImplicit false

namespace OneIssuer.Wire

/-! ## Decoding, octet by octet -/

/-- A text decodes: each escape that is not refused to its octet, every other octet to itself. -/
inductive Decodes (mode : Encoding) : Octets → Octets → Prop where
  | nil : Decodes mode [] []
  | escaped {high low first second : UInt8} {rest decoded : Octets} :
      unhex high = some first → unhex low = some second →
      escapeRefused mode (first * 16 + second) = false → Decodes mode rest decoded →
      Decodes mode (37 :: high :: low :: rest) ((first * 16 + second) :: decoded)
  | plain {octet : UInt8} {rest decoded : Octets} :
      octet ≠ 37 → ((mode == .host || mode == .zone) && octet < 0x80 && shouldEscape mode octet) = false →
      Decodes mode rest decoded →
      Decodes mode (octet :: rest)
        ((if octet == 43 && mode == .queryComponent then 32 else octet) :: decoded)

theorem decodes_of_unescape {mode : Encoding} {text decoded : Octets}
    (isDecoded : unescape mode text = some decoded) : Decodes mode text decoded := by
  fun_induction unescape mode text generalizing decoded
  case case1 =>
    cases isDecoded
    exact .nil
  case case2 => cases isDecoded
  case case3 high low rest first second isSecond isFirst allowed ih =>
    obtain ⟨others, areOthers, rfl⟩ := Option.map_eq_some_iff.mp isDecoded
    exact .escaped isFirst isSecond (by simpa using allowed) (ih areOthers)
  case case4 => cases isDecoded
  case case5 => cases isDecoded
  case case6 => cases isDecoded
  case case7 octet rest _ plain allowed ih =>
    obtain ⟨others, areOthers, rfl⟩ := Option.map_eq_some_iff.mp isDecoded
    exact .plain plain (by simpa using allowed) (ih areOthers)

theorem Decodes.unescape_eq {mode : Encoding} {text decoded : Octets} (decodes : Decodes mode text decoded) :
    unescape mode text = some decoded := by
  induction decodes with
  | nil => rfl
  | escaped isFirst isSecond allowed _ ih => simp [unescape, isFirst, isSecond, allowed, ih]
  | plain isPlain allowed _ ih => rw [unescape_cons _ isPlain, allowed, ih]; rfl

/-! ## Octets of a host -/

/-- The octets a decoded host name is made of. -/
def isNameOctet (octet : UInt8) : Bool := !shouldEscape .host octet || octet == 37 || 0x80 ≤ octet

/-- A decoded zone may have spaces. -/
def isHostOctet (octet : UInt8) : Bool := isNameOctet octet || octet == 32

/-- What a decoded host is escaped to has no delimiter and is printable. -/
theorem escapeOctet_host : ∀ octet : UInt8, isHostOctet octet → ∀ written ∈ escapeOctet .host octet,
    written ∉ octets "/?#@" ∧ 32 ≤ written ∧ written ≠ 127 := by
  simp only [← List.all_iff_forall_prop]
  exact forall_octet (by decide +kernel)

/-- Colons and brackets are written for themselves only. -/
theorem escapeOctet_host_self : ∀ octet : UInt8, ∀ written ∈ escapeOctet .host octet,
    written ∈ octets ":[]" → written = octet := by
  simp only [← List.all_iff_forall_prop]
  exact forall_octet (by decide +kernel)

theorem shouldEscape_zone (octet : UInt8) : shouldEscape .zone octet = shouldEscape .host octet := rfl

theorem isNameOctet_of_allowed (octet : UInt8)
    (allowed : escapeRefused .host octet = false ∨
      (decide (octet < 0x80) && shouldEscape .host octet) = false) : isNameOctet octet := by
  rw [isNameOctet, Bool.or_assoc, Bool.or_eq_true, Bool.or_eq_true, decide_eq_true_eq, ← UInt8.not_lt]
  grind [escapeRefused]

theorem isHostOctet_of_allowed (octet : UInt8)
    (allowed : escapeRefused .zone octet = false ∨
      (decide (octet < 0x80) && shouldEscape .zone octet) = false) : isHostOctet octet := by
  rw [isHostOctet, isNameOctet, ← shouldEscape_zone]
  grind [escapeRefused, shouldEscape_zone]

/-- The octets of what a host is decoded to. -/
theorem Decodes.isNameOctet {text decoded : Octets} (decodes : Decodes .host text decoded) :
    ∀ octet ∈ decoded, isNameOctet octet := by
  induction decodes with
  | nil => exact nofun
  | escaped _ _ allowed _ ih =>
    exact List.forall_mem_cons.mpr ⟨isNameOctet_of_allowed _ (.inl allowed), ih⟩
  | plain _ allowed _ ih =>
    rw [if_neg (by simp)]
    exact List.forall_mem_cons.mpr ⟨isNameOctet_of_allowed _ (.inr allowed), ih⟩

/-- The octets of what a zone is decoded to. -/
theorem Decodes.isHostOctet {text decoded : Octets} (decodes : Decodes .zone text decoded) :
    ∀ octet ∈ decoded, isHostOctet octet := by
  induction decodes with
  | nil => exact nofun
  | escaped _ _ allowed _ ih =>
    exact List.forall_mem_cons.mpr ⟨isHostOctet_of_allowed _ (.inl allowed), ih⟩
  | plain _ allowed _ ih =>
    rw [if_neg (by simp)]
    exact List.forall_mem_cons.mpr ⟨isHostOctet_of_allowed _ (.inr allowed), ih⟩

/-- Decoding a host makes no colon and no bracket. -/
theorem Decodes.mem_of_delimiter {text decoded : Octets} (decodes : Decodes .host text decoded)
    {octet : UInt8} (delimiter : octet ∈ octets ":[]") (member : octet ∈ decoded) : octet ∈ text := by
  have refused : ∀ octet ∈ octets ":[]", escapeRefused .host octet = true := List.all_eq_true.mp (by decide)
  induction decodes with
  | nil => cases member
  | escaped _ _ allowed _ ih =>
    rcases List.mem_cons.mp member with rfl | member
    · rw [refused _ delimiter] at allowed
      cases allowed
    · exact List.mem_cons_of_mem _ (List.mem_cons_of_mem _ (List.mem_cons_of_mem _ (ih member)))
  | plain _ _ _ ih =>
    rw [if_neg (by simp)] at member
    rcases List.mem_cons.mp member with rfl | member
    · exact List.mem_cons_self
    · exact List.mem_cons_of_mem _ (ih member)

/-- A host is written with colons and brackets only where it has them. -/
theorem mem_of_mem_escape {text : Octets} {octet : UInt8} (delimiter : octet ∈ octets ":[]")
    (member : octet ∈ escape .host text) : octet ∈ text := by
  obtain ⟨source, inside, member⟩ := List.mem_flatMap.mp member
  rwa [escapeOctet_host_self source octet member delimiter]

/-! ## Ports -/

theorem isDigit_plain (octet : UInt8) (digit : isDigit octet) :
    octet ≠ 37 ∧ octet ≠ 43 ∧ octet ≠ 91 ∧ octet ≠ 93 ∧ shouldEscape .host octet = false := by
  have asItIs : shouldEscape .host octet = false := by simp [shouldEscape, isAlphanumeric, digit]
  rw [isDigit, Bool.and_eq_true, decide_eq_true_eq, decide_eq_true_eq] at digit
  refine ⟨?_, ?_, ?_, ?_, asItIs⟩ <;> grind

/-- A port is written as it is. -/
theorem escape_digits {digits : Octets} (areDigits : ∀ octet ∈ digits, isDigit octet) :
    escape .host digits = digits := by
  induction digits with
  | nil => rfl
  | cons octet rest ih =>
    obtain ⟨isDigit, areDigits⟩ := List.forall_mem_cons.mp areDigits
    have notEscaped := (isDigit_plain octet isDigit).2.2.2.2
    have rewritten := ih areDigits
    rw [escape] at rewritten ⊢
    rw [List.flatMap_cons, rewritten, escapeOctet, notEscaped]
    rfl

theorem unescape_digits {digits : Octets} (areDigits : ∀ octet ∈ digits, isDigit octet) :
    unescape .host digits = some digits := by
  have isWritten := escape_digits areDigits
  have readBack : unescape .host (escape .host digits) = some digits := by
    refine unescape_escape ?_ nofun
    intro octet member escaped
    rw [(isDigit_plain octet (areDigits octet member)).2.2.2.2] at escaped
    cases escaped
  rwa [isWritten] at readBack

theorem validOptionalPort_iff {port : Octets} :
    validOptionalPort port ↔ port = [] ∨ ∃ digits, port = 58 :: digits ∧ ∀ octet ∈ digits, isDigit octet := by
  cases port with
  | nil => simp [validOptionalPort]
  | cons colon digits => simp [validOptionalPort]

theorem validOptionalPort_plain {port : Octets} (valid : validOptionalPort port) :
    escape .host port = port ∧ unescape .host port = some port ∧ 91 ∉ port ∧ 93 ∉ port := by
  rcases validOptionalPort_iff.mp valid with rfl | ⟨digits, rfl, areDigits⟩
  · exact ⟨rfl, rfl, by simp, by simp⟩
  · have colon : escapeOctet .host 58 = [58] := by decide
    refine ⟨?_, ?_, ?_, ?_⟩
    · have isDigits := escape_digits areDigits
      rw [escape] at isDigits ⊢
      rw [List.flatMap_cons, isDigits, colon]
      rfl
    · rw [unescape_cons _ (by decide), unescape_digits areDigits]
      rfl
    · rw [List.mem_cons, not_or]
      exact ⟨by decide, fun member => (isDigit_plain 91 (areDigits 91 member)).2.2.1 rfl⟩
    · rw [List.mem_cons, not_or]
      exact ⟨by decide, fun member => (isDigit_plain 93 (areDigits 93 member)).2.2.2.1 rfl⟩

/-- From the first colon on. -/
def fromColon (host : Octets) : Octets := optionalText 58 (cutOptional 58 host).2

theorem fromColon_skip {before : Octets} (text : Octets) (absent : 58 ∉ before) :
    fromColon (before ++ text) = fromColon text := by
  rw [fromColon, cutOptional_append text absent, fromColon]

theorem fromColon_colon (text : Octets) : fromColon (58 :: text) = 58 :: text := by
  simp [fromColon, cutOptional, cut, optionalText]

theorem unhex_plain (octet : UInt8) (isHex : (unhex octet).isSome) : octet ≠ 58 ∧ octet ≠ 37 := by
  constructor
  · rintro rfl
    cases isHex
  · rintro rfl
    cases isHex

/-- Decoding a host keeps the port after its first colon. -/
theorem Decodes.fromColon {text decoded : Octets} (decodes : Decodes .host text decoded)
    (valid : validOptionalPort (fromColon text)) : validOptionalPort (fromColon decoded) := by
  induction decodes with
  | nil => rfl
  | @escaped high low first second rest decoded isHigh isLow allowed _ ih =>
    have notColon : (first * 16 + second) ≠ 58 := by
      intro colon
      rw [colon] at allowed
      revert allowed
      decide
    have before : Wire.fromColon ([37, high, low] ++ rest) = Wire.fromColon rest := by
      refine fromColon_skip rest ?_
      have notHigh := (unhex_plain high (by simp [isHigh])).1
      have notLow := (unhex_plain low (by simp [isLow])).1
      simp [Ne.symm notHigh, Ne.symm notLow]
    have after : Wire.fromColon ([first * 16 + second] ++ decoded) = Wire.fromColon decoded :=
      fromColon_skip decoded (by simpa using Ne.symm notColon)
    exact after ▸ ih (before ▸ valid)
  | @plain octet rest decoded _ _ inner ih =>
    rw [if_neg (by simp)]
    by_cases colon : octet = 58
    · -- What follows the colon are digits, which are decoded to themselves.
      subst colon
      rw [fromColon_colon] at valid
      have digits := valid
      simp only [validOptionalPort, beq_self_eq_true, Bool.true_and, List.all_eq_true] at digits
      have same := inner.unescape_eq
      rw [unescape_digits digits, Option.some.injEq] at same
      rwa [← same, fromColon_colon]
    · have before : Wire.fromColon ([octet] ++ rest) = Wire.fromColon rest :=
        fromColon_skip rest (by simpa using Ne.symm colon)
      have after : Wire.fromColon ([octet] ++ decoded) = Wire.fromColon decoded :=
        fromColon_skip decoded (by simpa using Ne.symm colon)
      exact after ▸ ih (before ▸ valid)

/-- Writing a host keeps the port after its first colon. -/
theorem fromColon_escape {host : Octets} (valid : validOptionalPort (fromColon host)) :
    validOptionalPort (fromColon (escape .host host)) := by
  induction host with
  | nil => rfl
  | cons octet rest ih =>
    have isWritten : escape .host (octet :: rest) = escapeOctet .host octet ++ escape .host rest := rfl
    rw [isWritten]
    by_cases colon : octet = 58
    · subst colon
      rw [fromColon_colon] at valid
      have written := (validOptionalPort_plain valid).1
      rw [isWritten] at written
      rwa [written, fromColon_colon]
    · have absent : 58 ∉ escapeOctet .host octet := by
        intro member
        exact colon (escapeOctet_host_self octet 58 member (by decide)).symm
      have before : fromColon ([octet] ++ rest) = fromColon rest :=
        fromColon_skip rest (by simpa using Ne.symm colon)
      rw [fromColon_skip _ absent]
      exact ih (before ▸ valid)

/-! ## Zones -/

/-- The text has no escaped percent sign. -/
def Unmarked (text : Octets) : Prop := ∀ before after, text ≠ before ++ 37 :: 50 :: 53 :: after

theorem Unmarked.tail {octet : UInt8} {rest : Octets} (unmarked : Unmarked (octet :: rest)) :
    Unmarked rest := by
  rintro before after rfl
  exact unmarked (octet :: before) after rfl

/-- The zone starts with the first escaped percent sign. -/
theorem cutZone_spec (text : Octets) :
    text = (cutZone text).1 ++ (cutZone text).2 ∧ Unmarked (cutZone text).1 ∧
      ((cutZone text).2 = [] ∨ ∃ rest, (cutZone text).2 = 37 :: 50 :: 53 :: rest) := by
  fun_induction cutZone text
  case case1 rest => exact ⟨rfl, by intro before after; simp, .inr ⟨rest, rfl⟩⟩
  case case2 octet rest unmarked ih =>
    obtain ⟨isRest, restUnmarked, zone⟩ := ih
    refine ⟨congrArg (octet :: ·) isRest, ?_, zone⟩
    intro before after same
    cases before with
    | nil =>
      rw [List.nil_append, List.cons.injEq] at same
      rw [same.2] at isRest
      exact unmarked _ same.1 isRest
    | cons first before =>
      rw [List.cons_append, List.cons.injEq] at same
      exact restUnmarked before after same.2
  case case3 => exact ⟨rfl, by intro before after; simp, .inl rfl⟩

theorem cutZone_cons {octet : UInt8} (rest : Octets) (plain : octet ≠ 37) :
    cutZone (octet :: rest) = (octet :: (cutZone rest).1, (cutZone rest).2) := by
  rw [cutZone]
  intro _ same
  exact absurd same plain

theorem unhex_value (octet value : UInt8) (isValue : value ∈ unhex octet) :
    value < 16 ∧ (value = 2 → octet = 50) ∧ (value = 5 → octet = 53) := by
  grind [unhex]

/-- The escape of a percent sign. -/
theorem escape_percent {high low first second : UInt8} (isHigh : unhex high = some first)
    (isLow : unhex low = some second) (percent : first * 16 + second = 37) : high = 50 ∧ low = 53 := by
  obtain ⟨smallHigh, two, _⟩ := unhex_value high first isHigh
  obtain ⟨smallLow, _, five⟩ := unhex_value low second isLow
  have value : (first.toNat * 16 + second.toNat) % 256 = 37 := by
    simpa [UInt8.toNat_add, UInt8.toNat_mul] using congrArg UInt8.toNat percent
  have small : first.toNat < 16 ∧ second.toNat < 16 := ⟨smallHigh, smallLow⟩
  refine ⟨two (UInt8.toNat_inj.mp ?_), five (UInt8.toNat_inj.mp ?_)⟩
  · show first.toNat = 2
    omega
  · show second.toNat = 5
    omega

/-- The address before the zone is decoded without percent signs. -/
theorem Decodes.not_percent {text decoded : Octets} (decodes : Decodes .host text decoded)
    (unmarked : Unmarked text) : 37 ∉ decoded := by
  induction decodes with
  | nil => exact List.not_mem_nil
  | @escaped high low first second rest decoded isHigh isLow _ _ ih =>
    rw [List.mem_cons, not_or]
    refine ⟨?_, ih unmarked.tail.tail.tail⟩
    intro percent
    obtain ⟨rfl, rfl⟩ := escape_percent isHigh isLow percent.symm
    exact unmarked [] rest rfl
  | plain isPlain _ _ ih =>
    rw [if_neg (by simp), List.mem_cons, not_or]
    exact ⟨Ne.symm isPlain, ih unmarked.tail⟩

theorem upperhex_plain : ∀ octet : UInt8, upperhex (octet / 16) ≠ 37 ∧ upperhex (octet % 16) ≠ 37 ∧
    (upperhex (octet / 16) = 50 → upperhex (octet % 16) = 53 → octet = 37) :=
  forall_octet (by decide +kernel)

theorem cutZone_escapeOctet {octet : UInt8} (rest : Octets) (plain : octet ≠ 37) :
    cutZone (escapeOctet .host octet ++ rest) =
      (escapeOctet .host octet ++ (cutZone rest).1, (cutZone rest).2) := by
  obtain ⟨high, low, percent⟩ := upperhex_plain octet
  by_cases escaped : shouldEscape .host octet
  · have isWritten : escapeOctet .host octet =
        [37, upperhex (octet / 16), upperhex (octet % 16)] := by
      simp [escapeOctet, escaped]
    rw [isWritten, List.cons_append, List.cons_append, List.singleton_append, cutZone,
      cutZone_cons _ high, cutZone_cons _ low]
    · rfl
    · intro _ _ same
      rw [List.cons.injEq, List.cons.injEq] at same
      exact plain (percent same.1 same.2.1)
  · have isWritten : escapeOctet .host octet = [octet] := by simp [escapeOctet, escaped]
    rw [isWritten]
    exact cutZone_cons rest plain

theorem cutZone_escape {address : Octets} (rest : Octets) (plain : 37 ∉ address) :
    cutZone (escape .host address ++ rest) =
      (escape .host address ++ (cutZone rest).1, (cutZone rest).2) := by
  induction address with
  | nil => rfl
  | cons octet others ih =>
    rw [List.mem_cons, not_or] at plain
    have isWritten : escape .host (octet :: others) =
        escapeOctet .host octet ++ escape .host others := rfl
    rw [isWritten, List.append_assoc, cutZone_escapeOctet _ (Ne.symm plain.1), ih plain.2,
      List.append_assoc]

/-- How the octets of a zone are read back. -/
theorem zoneOctet_cases : ∀ octet : UInt8, isHostOctet octet →
    (shouldEscape .host octet = false ∧ octet < 0x80 ∧ octet ≠ 37) ∨
      (shouldEscape .host octet = true ∧ octet < 0x80 ∧ escapeRefused .zone octet = false) ∨
      (shouldEscape .host octet = true ∧ ¬octet < 0x80 ∧ escapeRefused .zone octet = true) :=
  forall_octet (by decide +kernel)

/-- A zone is read back exactly when it is ASCII. -/
theorem unescape_zone_escape {zone : Octets} (areOctets : ∀ octet ∈ zone, isHostOctet octet) :
    unescape .zone (escape .host zone) = if zone.all (· < 0x80) then some zone else none := by
  induction zone with
  | nil => rfl
  | cons octet rest ih =>
    obtain ⟨isOctet, areOctets⟩ := List.forall_mem_cons.mp areOctets
    obtain ⟨isHigh, isLow, whole⟩ := unhex_upperhex octet
    have isWritten : escape .host (octet :: rest) = escapeOctet .host octet ++ escape .host rest := rfl
    rcases zoneOctet_cases octet isOctet with ⟨plain, ascii, notPercent⟩ | ⟨escaped, ascii, allowed⟩ |
        ⟨escaped, notAscii, refused⟩
    · rw [isWritten, escapeOctet, plain]
      simp only [Bool.false_eq_true, if_false, List.singleton_append, unescape_cons _ notPercent,
        shouldEscape_zone, plain, Bool.and_false, ih areOctets]
      by_cases others : rest.all (· < 0x80) <;> simp [others, ascii]
    · rw [isWritten, escapeOctet, escaped]
      by_cases others : rest.all (· < 0x80) <;>
        simp [unescape, isHigh, isLow, whole, allowed, ih areOctets, others, ascii]
    · rw [isWritten, escapeOctet, escaped]
      simp [unescape, isHigh, isLow, whole, refused, notAscii]

/-! ## Hosts -/

/-- A decoded host is a name, or an IPv6 address in brackets with an optional zone; a port may follow. -/
inductive HostShape (host : Octets) : Prop where
  | name (noBracket : 91 ∉ host) (plain : ∀ octet ∈ host, isNameOctet octet)
      (port : validOptionalPort (fromColon host))
  | literal (address : Octets) (zone : Option Octets) (port : Octets)
      (isHost : host = 91 :: (address ++ optionalText 37 zone) ++ 93 :: port)
      (isAddress : ∃ bits text, parseAddr (address ++ optionalText 37 zone) = some (.v6 bits text))
      (plain : ∀ octet ∈ address, isNameOctet octet) (apart : 91 ∉ address ∧ 37 ∉ address)
      (zonePlain : ∀ octet ∈ zone.getD [], isHostOctet octet) (isPort : validOptionalPort port)

/-- Schemes whose authority is a list of hosts. -/
def listsHosts (scheme : Octets) : Bool := scheme == octets "postgres" || scheme == octets "postgresql"

theorem colonPort_eq {scheme : Octets} (single : listsHosts scheme = false) (host : Octets) :
    colonPort scheme host = fromColon host := by
  rw [listsHosts] at single
  rw [colonPort, fromColon, cutOptional, single]
  cases cut 58 host <;> rfl

/-- The decoded name between brackets is an address and its zone. -/
theorem unescapeLiteral_shape {hostname name : Octets} (isName : unescapeLiteral hostname = some name) :
    ∃ address zone, name = address ++ optionalText 37 zone ∧
      (∀ octet ∈ address, isNameOctet octet) ∧ 37 ∉ address ∧
      (∀ octet ∈ zone.getD [], isHostOctet octet) ∧ (91 ∈ address → 91 ∈ hostname) := by
  obtain ⟨isHostname, unmarked, isZone⟩ := cutZone_spec hostname
  rw [unescapeLiteral] at isName
  split at isName
  · rename_i address zone isAddress isZoneText
    cases isName
    have decodes := decodes_of_unescape isAddress
    have bracket : 91 ∈ address → 91 ∈ hostname := by
      intro member
      rw [isHostname]
      exact List.mem_append_left _ (decodes.mem_of_delimiter (by decide) member)
    rcases isZone with noZone | ⟨rest, isZone⟩
    · rw [noZone] at isZoneText
      cases isZoneText
      exact ⟨address, none, rfl, decodes.isNameOctet, decodes.not_percent unmarked, nofun, bracket⟩
    · rw [isZone] at isZoneText
      have zoneDecodes := decodes_of_unescape isZoneText
      have zonePlain := zoneDecodes.isHostOctet
      cases zoneDecodes with
      | @escaped _ _ first second _ decoded isFirst isSecond _ _ =>
        cases isFirst
        cases isSecond
        exact ⟨address, some decoded, rfl, decodes.isNameOctet, decodes.not_percent unmarked,
          (List.forall_mem_cons.mp zonePlain).2, bracket⟩
      | plain isPlain _ _ => exact absurd rfl isPlain
  · cases isName

theorem parseHost_shape {scheme authority host : Octets} (single : listsHosts scheme = false)
    (parsed : parseHost scheme authority = some host) : HostShape host := by
  unfold parseHost at parsed
  split at parsed
  · rename_i bracketed
    split at parsed
    · rename_i rest
      split at parsed
      · cases parsed
      rename_i once
      split at parsed
      · cases parsed
      rename_i hostname port isCut
      split at parsed
      · cases parsed
      rename_i isPort
      split at parsed
      · rename_i portText name isPortText isName
        split at parsed
        · rename_i bits text isAddress
          cases parsed
          have validPort : validOptionalPort port := by simpa using isPort
          have samePort := (validOptionalPort_plain validPort).2.1
          rw [samePort] at isPortText
          cases isPortText
          obtain ⟨isRest, _⟩ := cutLast_eq_some.mp isCut
          obtain ⟨address, zone, rfl, plain, noPercent, zonePlain, bracket⟩ :=
            unescapeLiteral_shape isName
          refine .literal address zone port rfl ⟨bits, text, isAddress⟩ plain ⟨?_, noPercent⟩ zonePlain
            validPort
          intro member
          refine once ?_
          rw [isRest]
          simp [bracket member]
        · cases parsed
      · cases parsed
    · cases parsed
  · rename_i bracketless
    split at parsed
    · cases parsed
    rename_i isPort
    rw [colonPort_eq single] at isPort
    have decodes := decodes_of_unescape parsed
    refine .name ?_ decodes.isNameOctet (decodes.fromColon (by simpa using isPort))
    intro member
    exact bracketless (by simpa using decodes.mem_of_delimiter (by decide) member)

theorem HostShape.isHostOctet {host : Octets} (shape : HostShape host) :
    ∀ octet ∈ host, isHostOctet octet := by
  have ofName : ∀ {octet : UInt8}, isNameOctet octet → Wire.isHostOctet octet := by
    intro octet isName
    rw [Wire.isHostOctet, isName, Bool.true_or]
  have ofPort : ∀ octet : UInt8, isDigit octet → isNameOctet octet := by
    intro octet digit
    simp [isNameOctet, isDigit_plain octet digit]
  cases shape with
  | name _ plain _ => exact fun octet member => ofName (plain octet member)
  | literal address zone port isHost _ plain _ zonePlain isPort =>
    rw [isHost]
    intro octet member
    simp only [List.cons_append, List.append_assoc, List.mem_cons, List.mem_append] at member
    rcases member with rfl | member | member | rfl | member
    · decide
    · exact ofName (plain octet member)
    · cases zone with
      | none => cases member
      | some zone =>
        rcases List.mem_cons.mp member with rfl | member
        · decide
        · exact zonePlain octet member
    · decide
    · rcases validOptionalPort_iff.mp isPort with rfl | ⟨digits, rfl, areDigits⟩
      · cases member
      · rcases List.mem_cons.mp member with rfl | member
        · decide
        · exact ofName (ofPort octet (areDigits octet member))

/-- The zone of a host in brackets, and what follows it. -/
def zoneText (host : Octets) : Octets := (cutOptional 37 host).2.getD []

/-- A host that `String` writes and `Parse` reads: the zone of an address has no bracket and is ASCII. -/
def Reprintable (host : Octets) : Prop :=
  host.head? = some 91 → ∀ octet ∈ zoneText host, octet ≠ 91 ∧ octet < 0x80

instance (host : Octets) : Decidable (Reprintable host) :=
  inferInstanceAs (Decidable (_ → ∀ octet ∈ zoneText host, octet ≠ 91 ∧ octet < 0x80))

theorem escape_append (mode : Encoding) (first second : Octets) :
    escape mode (first ++ second) = escape mode first ++ escape mode second :=
  List.flatMap_append

/-- A host name is read back from what is written for it. -/
theorem unescape_escape_name {name : Octets} (plain : ∀ octet ∈ name, isNameOctet octet) :
    unescape .host (escape .host name) = some name := by
  have allowed : ∀ octet : UInt8, isNameOctet octet → shouldEscape .host octet →
      escapeRefused .host octet = false := by
    intro octet isName escaped
    grind [isNameOctet, escapeRefused]
  exact unescape_escape (fun octet member => allowed octet (plain octet member)) (by simp)

theorem unescapeLiteral_escape {address : Octets} {zone : Option Octets}
    (plain : ∀ octet ∈ address, isNameOctet octet) (noPercent : 37 ∉ address)
    (zonePlain : ∀ octet ∈ zone.getD [], isHostOctet octet) :
    unescapeLiteral (escape .host (address ++ optionalText 37 zone)) =
      if (zone.getD []).all (· < 0x80) then some (address ++ optionalText 37 zone) else none := by
  cases zone with
  | none =>
    have isCut := cutZone_escape [] noPercent
    simp only [List.append_nil] at isCut
    simp [unescapeLiteral, optionalText, isCut, cutZone, unescape_escape_name plain, unescape]
  | some zone =>
    have percent : escape .host (37 :: zone) = 37 :: 50 :: 53 :: escape .host zone := rfl
    have isZone : unescape .zone (37 :: 50 :: 53 :: escape .host zone) =
        (unescape .zone (escape .host zone)).map (37 :: ·) := rfl
    have readBack := unescape_zone_escape zonePlain
    rw [Option.getD_some] at readBack ⊢
    rw [unescapeLiteral, optionalText, escape_append, percent, cutZone_escape _ noPercent]
    simp only [cutZone, List.append_nil, unescape_escape_name plain, isZone, readBack]
    by_cases ascii : zone.all (· < 0x80) <;> simp [ascii]

theorem isDigit_ascii (octet : UInt8) (digit : isDigit octet) : octet ≠ 37 ∧ octet ≠ 91 ∧ octet < 0x80 := by
  rw [isDigit, Bool.and_eq_true, decide_eq_true_eq, decide_eq_true_eq] at digit
  refine ⟨?_, ?_, ?_⟩ <;> grind

theorem validOptionalPort_ascii {port : Octets} (valid : validOptionalPort port) :
    ∀ octet ∈ port, octet ≠ 37 ∧ octet ≠ 91 ∧ octet < 0x80 := by
  rcases validOptionalPort_iff.mp valid with rfl | ⟨digits, rfl, areDigits⟩
  · exact nofun
  · exact List.forall_mem_cons.mpr
      ⟨by decide, fun octet member => isDigit_ascii octet (areDigits octet member)⟩

theorem reprintable_literal {address port : Octets} {zone : Option Octets} (noPercent : 37 ∉ address)
    (isPort : validOptionalPort port) :
    Reprintable (91 :: (address ++ optionalText 37 zone) ++ 93 :: port) ↔
      ∀ octet ∈ zone.getD [], octet ≠ 91 ∧ octet < 0x80 := by
  have plainPort := validOptionalPort_ascii isPort
  have absent : 37 ∉ 91 :: address := by simpa using noPercent
  cases zone with
  | none =>
    refine iff_of_true (fun _ => ?_) fun _ member => absurd member List.not_mem_nil
    have noZone : 37 ∉ 91 :: (address ++ optionalText 37 none) ++ 93 :: port := by
      simp only [optionalText, List.append_nil, List.mem_append, List.mem_cons, not_or]
      exact ⟨by simpa using absent, by decide, fun member => (plainPort 37 member).1 rfl⟩
    rw [zoneText, cutOptional_of_not_mem noZone]
    exact fun _ member => absurd member List.not_mem_nil
  | some zone =>
    have isZone : zoneText (91 :: (address ++ optionalText 37 (some zone)) ++ 93 :: port) =
        zone ++ 93 :: port := by
      have isCut := cutOptional_text (some (zone ++ 93 :: port)) absent
      simp only [optionalText, List.cons_append, List.append_assoc] at isCut ⊢
      rw [zoneText, isCut]
      rfl
    rw [Reprintable, isZone]
    simp only [List.cons_append, List.head?_cons, forall_const, List.mem_append, List.mem_cons,
      Option.getD_some]
    constructor
    · intro safe octet member
      exact safe octet (.inl member)
    · rintro safe octet (member | rfl | member)
      · exact safe octet member
      · decide
      · exact (plainPort octet member).2

/-- Writing a host and parsing it again. -/
theorem parseHost_escape {scheme host : Octets} (single : listsHosts scheme = false)
    (shape : HostShape host) :
    parseHost scheme (escape .host host) = if Reprintable host then some host else none := by
  cases shape with
  | name noBracket plain port =>
    have printed : Reprintable host := by
      intro bracketed
      exact absurd (List.mem_of_mem_head? bracketed) noBracket
    have bracketless : (escape .host host).contains 91 = false := by
      simpa using fun member => noBracket (mem_of_mem_escape (by decide) member)
    have notLiteral : parseHost scheme (escape .host host) = unescape .host (escape .host host) := by
      unfold parseHost
      rw [if_neg (by simpa using bracketless), colonPort_eq single,
        fromColon_escape port]
      rfl
    rw [notLiteral, unescape_escape_name plain, if_pos printed]
  | literal address zone port isHost isAddress plain apart zonePlain isPort =>
    obtain ⟨bits, text, isAddress⟩ := isAddress
    obtain ⟨samePort, readPort, noOpen, noClose⟩ := validOptionalPort_plain isPort
    have isWritten : escape .host host =
        91 :: (escape .host (address ++ optionalText 37 zone) ++ 93 :: port) := by
      have closing : escape .host (93 :: port) = 93 :: escape .host port := rfl
      have opening : ∀ rest, escape .host (91 :: rest) = 91 :: escape .host rest := fun _ => rfl
      rw [isHost, List.cons_append, opening, escape_append, closing, samePort]
    have safe : Reprintable host ↔ ∀ octet ∈ zone.getD [], octet ≠ 91 ∧ octet < 0x80 := by
      rw [isHost]
      exact reprintable_literal apart.2 isPort
    have literal := unescapeLiteral_escape plain apart.2 zonePlain
    have inZone : 91 ∈ optionalText 37 zone ↔ 91 ∈ zone.getD [] := by
      cases zone <;> simp [optionalText]
    rw [isWritten]
    unfold parseHost
    rw [if_pos (by simp)]
    simp only
    by_cases bracket : 91 ∈ zone.getD []
    · have twice : (escape .host (address ++ optionalText 37 zone) ++ 93 :: port).contains 91 := by
        have written : 91 ∈ escape .host (address ++ optionalText 37 zone) :=
          List.mem_flatMap.mpr ⟨91, List.mem_append_right _ (inZone.mpr bracket), by decide⟩
        simp [written]
      rw [if_pos twice, if_neg fun printed => (safe.mp printed 91 bracket).1 rfl]
    · have once : ¬(escape .host (address ++ optionalText 37 zone) ++ 93 :: port).contains 91 := by
        have notWritten : 91 ∉ escape .host (address ++ optionalText 37 zone) := by
          intro member
          rcases List.mem_append.mp (mem_of_mem_escape (by decide) member) with member | member
          · exact apart.1 member
          · exact bracket (inZone.mp member)
        simp [notWritten, noOpen]
      have isCut : cutLast 93 (escape .host (address ++ optionalText 37 zone) ++ 93 :: port) =
          some (escape .host (address ++ optionalText 37 zone), port) :=
        cutLast_eq_some.mpr ⟨rfl, noClose⟩
      rw [if_neg once, isCut]
      simp only [isPort, Bool.not_true, Bool.false_eq_true, if_false, readPort, literal]
      by_cases ascii : (zone.getD []).all (· < 0x80)
      · have printed : Reprintable host := by
          refine safe.mpr fun octet member => ⟨?_, of_decide_eq_true (List.all_eq_true.mp ascii octet member)⟩
          rintro rfl
          exact bracket member
        rw [if_pos ascii, if_pos printed, isHost]
        simp only [isAddress]
      · have notPrinted : ¬Reprintable host := by
          intro printed
          exact ascii (List.all_eq_true.mpr fun octet member =>
            decide_eq_true (safe.mp printed octet member).2)
        rw [if_neg ascii, if_neg notPrinted]

/-! ## Paths -/

theorem containsCTLByte_eq_false {text : Octets} :
    containsCTLByte text = false ↔ ∀ octet ∈ text, 32 ≤ octet ∧ octet ≠ 127 := by
  simp [containsCTLByte]

theorem escapeOctet_path : ∀ octet : UInt8, ∀ written ∈ escapeOctet .path octet,
    written ∉ octets "?#" ∧ 32 ≤ written ∧ written ≠ 127 := by
  simp only [← List.all_iff_forall_prop]
  exact forall_octet (by decide +kernel)

/-- The decoded path starts as its text does. -/
theorem rooted_of_unescape {text path : Octets} (rooted : text = [] ∨ text.head? = some 47)
    (decoded : unescape .path text = some path) : path = [] ∨ ∃ rest, path = 47 :: rest := by
  rcases rooted with rfl | rooted
  · cases decoded
    exact .inl rfl
  · obtain ⟨rest, rfl⟩ := List.head?_eq_some_iff.mp rooted
    rw [unescape_cons _ (by decide)] at decoded
    obtain ⟨others, _, rfl⟩ := Option.map_eq_some_iff.mp decoded
    exact .inr ⟨others, rfl⟩

/-- The path that is written: it is decoded to the path, rooted, and has no delimiter. -/
theorem Layout.escapedPath {url : Url} (layout : Layout url) (whole : 35 ∉ layout.text)
    (printable : containsCTLByte layout.text = false) :
    unescape .path url.escapedPath = some url.path ∧
      (url.escapedPath = [] ∨ url.escapedPath.head? = some 47) ∧
      ∀ octet ∈ url.escapedPath, octet ∉ octets "?#" ∧ 32 ≤ octet ∧ octet ≠ 127 := by
  obtain ⟨path, decoded, same⟩ := Option.map_eq_some_iff.mp layout.path_set
  obtain ⟨rfl, isRaw⟩ := Prod.mk.injEq .. ▸ same
  have rooted := rooted_of_unescape layout.path_rooted decoded
  have inText : ∀ octet ∈ layout.path, octet ∈ layout.text := by
    intro octet member
    simp [Layout.text, member]
  rw [Url.escapedPath]
  split
  · rename_i kept
    simp only [Bool.and_eq_true, bne_iff_ne, beq_iff_eq] at kept
    obtain ⟨⟨nonempty, _⟩, readBack⟩ := kept
    have isText : url.rawPath = layout.path := by
      rw [← isRaw] at nonempty ⊢
      split at nonempty
      · exact absurd rfl nonempty
      · rename_i differs
        rw [if_neg differs]
    refine ⟨readBack, isText ▸ layout.path_rooted, ?_⟩
    intro octet member
    rw [isText] at member
    refine ⟨?_, containsCTLByte_eq_false.mp printable octet (inText octet member)⟩
    intro delimiter
    have delimiters : octets "?#" = [63, 35] := by decide
    rw [delimiters, List.mem_cons, List.mem_singleton] at delimiter
    rcases delimiter with rfl | rfl
    · exact layout.path_plain member
    · exact whole (inText 35 member)
  · split
    · rename_i _ star
      rw [beq_iff_eq] at star
      rcases rooted with empty | ⟨rest, isPath⟩
      · rw [empty] at star
        cases star
      · rw [isPath] at star
        cases star
    · refine ⟨unescape_escape_path url.path, ?_, ?_⟩
      · rcases rooted with empty | ⟨rest, isPath⟩
        · rw [empty]
          exact .inl rfl
        · rw [isPath]
          exact .inr rfl
      · intro octet member
        obtain ⟨source, _, member⟩ := List.mem_flatMap.mp member
        exact escapeOctet_path source octet member

/-! ## Printing and parsing -/

theorem string_with_query {url : Url} {query : Octets} (nonempty : query ≠ [])
    (named : url.scheme ≠ []) (rooted : url.escapedPath = [] ∨ url.escapedPath.head? = some 47) :
    Url.string { url with rawQuery := query } =
      url.scheme ++ 58 :: 47 :: 47 :: (escape .host url.host ++ url.escapedPath) ++ 63 :: query := by
  have isPath : Url.escapedPath { url with rawQuery := query } = url.escapedPath := rfl
  have isNamed : url.scheme.isEmpty = false := List.isEmpty_eq_false_iff.mpr named
  have unslashed : (url.escapedPath != [] && url.escapedPath.head? != some 47) = false := by
    rcases rooted with empty | rooted
    · simp [empty]
    · simp [rooted]
  have queried : (url.forceQuery || query != []) = true := by simp [nonempty]
  simp only [Url.string, isPath, isNamed, unslashed, queried, if_true, Bool.false_eq_true, if_false,
    List.append_assoc, List.cons_append, List.nil_append]

theorem takeWhile_slash {before after : Octets} (noSlash : 47 ∉ before)
    (rooted : after = [] ∨ after.head? = some 47) :
    (before ++ after).takeWhile (· != 47) = before ∧ (before ++ after).dropWhile (· != 47) = after := by
  have passes : ∀ octet ∈ before, (octet != 47) = true := by
    intro octet member
    rw [bne_iff_ne]
    rintro rfl
    exact noSlash member
  rw [List.takeWhile_append_of_pos passes, List.dropWhile_append_of_pos passes]
  rcases rooted with rfl | rooted
  · simp
  · obtain ⟨rest, rfl⟩ := List.head?_eq_some_iff.mp rooted
    simp

section Reparse

variable {url : Url} {query : Octets}

/-- Parsing the parts that were written for a URL. -/
theorem parse_parts {scheme authority path : Octets} (named : scheme ≠ [])
    (read : ∀ rest, getScheme (scheme ++ 58 :: rest) = some (scheme, rest))
    (lower : lowerScheme scheme = scheme)
    (plain : ∀ octet ∈ scheme ++ authority ++ path ++ query, octet ≠ 35 ∧ 32 ≤ octet ∧ octet ≠ 127)
    (noQuery : 63 ∉ authority ++ path) (single : 47 ∉ authority ∧ 64 ∉ authority)
    (rooted : path = [] ∨ path.head? = some 47) :
    Url.parse (scheme ++ 58 :: 47 :: 47 :: (authority ++ path) ++ 63 :: query) =
      (parseHost scheme authority).bind fun host =>
        (setPath path).map fun (decoded, rawPath) =>
          { scheme := scheme, opaquePart := [], user := none, host := host, path := decoded
            rawPath := rawPath, omitHost := false
            forceQuery := (cutQuery (47 :: 47 :: (authority ++ path) ++ 63 :: query)).1
            rawQuery := query, fragment := [] } := by
  have octetsPlain : ∀ octet ∈ scheme ++ 58 :: 47 :: 47 :: (authority ++ path) ++ 63 :: query,
      octet ≠ 35 ∧ 32 ≤ octet ∧ octet ≠ 127 := by
    intro octet member
    simp only [List.mem_append, List.mem_cons] at member
    rcases member with (member | rfl | rfl | rfl | member | member) | rfl | member
    · exact plain octet (by simp [member])
    · decide
    · decide
    · decide
    · exact plain octet (by simp [member])
    · exact plain octet (by simp [member])
    · decide
    · exact plain octet (by simp [member])
  have whole : 35 ∉ scheme ++ 58 :: 47 :: 47 :: (authority ++ path) ++ 63 :: query := fun member =>
    (octetsPlain 35 member).1 rfl
  have printable : containsCTLByte (scheme ++ 58 :: 47 :: 47 :: (authority ++ path) ++ 63 :: query) =
      false := containsCTLByte_eq_false.mpr fun octet member => (octetsPlain octet member).2
  have notStar : (scheme ++ 58 :: 47 :: 47 :: (authority ++ path) ++ 63 :: query == [42]) = false := by
    rw [beq_eq_false_iff_ne]
    intro star
    have lengths := congrArg List.length star
    simp only [List.length_append, List.length_cons, List.length_nil] at lengths
    omega
  have isQuery : (cutQuery (47 :: 47 :: (authority ++ path) ++ 63 :: query)).2 =
      (47 :: 47 :: (authority ++ path), query) := by
    have isCut : cutOptional 63 (47 :: 47 :: (authority ++ path) ++ optionalText 63 (some query)) = _ :=
      cutOptional_text (some query) (by simpa using noQuery)
    rw [optionalText] at isCut
    rw [cutQuery_eq, isCut]
    rfl
  have isNamed : scheme.isEmpty = false := List.isEmpty_eq_false_iff.mpr named
  obtain ⟨isAuthority, isPath⟩ := takeWhile_slash single.1 rooted
  have noUser : cutLast 64 authority = none := cutLast_eq_none.mpr single.2
  rw [Url.parse, cut_eq_none.mpr whole]
  simp only [parseReference, printable, notStar, Bool.false_eq_true, if_false]
  rw [List.append_assoc, List.cons_append, read]
  generalize isCut : cutQuery (47 :: 47 :: (authority ++ path) ++ 63 :: query) = parts at isQuery
  obtain ⟨forced, before, found⟩ := parts
  obtain ⟨rfl, rfl⟩ := Prod.mk.injEq .. ▸ isQuery
  simp only [lower, isCut, List.head?_cons, bne_self_eq_false, Bool.false_and, Bool.false_eq_true,
    if_false, parseHierarchy, isNamed, isAuthority, isPath, parseAuthority, noUser]
  cases parseHost scheme authority with
  | none => rfl
  | some host => rfl

/-- A scheme that is written and read as it is. -/
structure PlainScheme (scheme : Octets) : Prop where
  named : scheme ≠ []
  lower : lowerScheme scheme = scheme
  single : listsHosts scheme = false
  printable : ∀ octet ∈ scheme, octet ≠ 35 ∧ 32 ≤ octet ∧ octet ≠ 127
  read : ∀ rest, getScheme (scheme ++ 58 :: rest) = some (scheme, rest)

/-- A parsed URL that is printed with another query is parsed to the same scheme, host and path, if
its host is one that can be printed. -/
theorem Layout.parse_string (layout : Layout url) (whole : 35 ∉ layout.text)
    (printable : containsCTLByte layout.text = false) (scheme : PlainScheme url.scheme)
    (nonempty : query ≠ []) (plain : ∀ octet ∈ query, octet ≠ 35 ∧ 32 ≤ octet ∧ octet ≠ 127) :
    ∃ after : Url, after.scheme = url.scheme ∧ after.host = url.host ∧ after.path = url.path ∧
      after.rawQuery = query ∧
      Url.parse (Url.string { url with rawQuery := query }) =
        if Reprintable url.host then some after else none := by
  obtain ⟨readBack, rooted, pathPlain⟩ := layout.escapedPath whole printable
  have shape := parseHost_shape scheme.single layout.host_parsed
  have hostPlain : ∀ octet ∈ escape .host url.host,
      octet ∉ octets "/?#@" ∧ 32 ≤ octet ∧ octet ≠ 127 := by
    intro octet member
    obtain ⟨source, inside, member⟩ := List.mem_flatMap.mp member
    exact escapeOctet_host source (shape.isHostOctet source inside) octet member
  have absent : ∀ octet ∈ octets "/?#@", octet ∉ escape .host url.host := fun octet delimiter member =>
    (hostPlain octet member).1 delimiter
  have noQuery : 63 ∉ escape .host url.host ++ url.escapedPath := by
    rw [List.mem_append, not_or]
    exact ⟨absent 63 (by decide), fun member => (pathPlain 63 member).1 (by decide)⟩
  have allPlain : ∀ octet ∈ url.scheme ++ escape .host url.host ++ url.escapedPath ++ query,
      octet ≠ 35 ∧ 32 ≤ octet ∧ octet ≠ 127 := by
    intro octet member
    simp only [List.mem_append] at member
    rcases member with ((member | member) | member) | member
    · exact scheme.printable octet member
    · refine ⟨?_, (hostPlain octet member).2⟩
      rintro rfl
      exact absent 35 (by decide) member
    · refine ⟨?_, (pathPlain octet member).2⟩
      rintro rfl
      exact (pathPlain 35 member).1 (by decide)
    · exact plain octet member
  rw [string_with_query nonempty scheme.named rooted,
    parse_parts scheme.named scheme.read scheme.lower allPlain noQuery
      ⟨absent 47 (by decide), absent 64 (by decide)⟩ rooted,
    parseHost_escape scheme.single shape, setPath, readBack]
  refine ⟨{ scheme := url.scheme, opaquePart := [], user := none, host := url.host, path := url.path
            rawPath := if escape .path url.path == url.escapedPath then [] else url.escapedPath
            omitHost := false, rawQuery := query, fragment := []
            forceQuery := (cutQuery (47 :: 47 :: (escape .host url.host ++ url.escapedPath) ++
              63 :: query)).1 }, rfl, rfl, rfl, rfl, ?_⟩
  by_cases printed : Reprintable url.host
  · rw [if_pos printed, if_pos printed]
    rfl
  · rw [if_neg printed, if_neg printed]
    rfl

end Reparse

/-! ## Queries -/

/-- The decoder of forms takes every text: a percent sign without two digits stands for itself. -/
def formDecode : Octets → Octets
  | [] => []
  | 37 :: high :: low :: rest =>
    match unhex high, unhex low with
    | some first, some second => (first * 16 + second) :: formDecode rest
    | _, _ => 37 :: formDecode (high :: low :: rest)
  | octet :: rest => (if octet == 43 then 32 else octet) :: formDecode rest

/-- The segments of a query that are not empty. -/
def segments (query : Octets) : List Octets := (query.splitOn 38).filter (!·.isEmpty)

/-- A segment as a pair, split at the first equals sign. -/
def formPair (segment : Octets) : Octets × Octets :=
  (formDecode (segment.takeWhile (· != 61)), formDecode ((segment.dropWhile (· != 61)).drop 1))

/-- All pairs of a query. -/
def formPairs (query : Octets) : List (Octets × Octets) := (segments query).map formPair

/-- What `QueryUnescape` decodes, the decoder of forms decodes to the same. -/
theorem formDecode_of_queryUnescape {text decoded : Octets} (isDecoded : queryUnescape text = some decoded) :
    formDecode text = decoded := by
  fun_induction queryUnescape text generalizing decoded
  case case1 =>
    cases isDecoded
    rfl
  case case2 high low rest first second others isRest isSecond isFirst ih =>
    cases isDecoded
    simp [formDecode, isFirst, isSecond, ih isRest]
  case case3 => cases isDecoded
  case case4 => cases isDecoded
  case case5 octet rest _ plain ih =>
    obtain ⟨others, isRest, rfl⟩ := Option.map_eq_some_iff.mp isDecoded
    rw [formDecode, ih isRest]
    intro _ _ _ same
    exact absurd same plain

theorem formPair_of_parsePair {segment : Octets} {pair : Octets × Octets}
    (parsed : parsePair segment = some pair) : formPair segment = pair := by
  rw [parsePair] at parsed
  split at parsed
  · cases parsed
  · split at parsed
    · rename_i key value isKey isValue
      cases parsed
      rw [formPair, formDecode_of_queryUnescape isKey, formDecode_of_queryUnescape isValue]
    · cases parsed

theorem formPair_encodePair (pair : Octets × Octets) : formPair (encodePair pair) = pair := by
  have noEquals : ∀ octet ∈ queryEscape pair.1, (octet != 61) = true := by
    intro octet member
    rw [bne_iff_ne]
    rintro rfl
    exact absurd (mem_queryEscape member) (by decide)
  rw [formPair, encodePair, List.takeWhile_append_of_pos noEquals,
    List.dropWhile_append_of_pos noEquals]
  simp [formDecode_of_queryUnescape (queryUnescape_queryEscape _)]

/-- The octets of a pair of an encoded query. -/
theorem mem_encodePair {pair : Octets × Octets} {octet : UInt8} (member : octet ∈ encodePair pair) :
    isAlphanumeric octet ∨ octet ∈ octets "-_.~+%" ∨ octet = 61 := by
  rw [encodePair, List.mem_append, List.mem_cons] at member
  rcases member with member | same | member
  · exact (mem_queryEscape member).imp_right .inl
  · exact .inr (.inr same)
  · exact (mem_queryEscape member).imp_right .inl

theorem encodePair_ne_nil (pair : Octets × Octets) : encodePair pair ≠ [] := by
  simp [encodePair]

theorem segments_intercalate (pairs : List (Octets × Octets)) :
    segments ([38].intercalate (pairs.map encodePair)) = pairs.map encodePair := by
  cases pairs with
  | nil => rfl
  | cons pair rest =>
    have isSplit : ([38].intercalate ((pair :: rest).map encodePair)).splitOn 38 =
        (pair :: rest).map encodePair := by
      refine List.splitOn_intercalate 38 ?_ (by simp)
      intro part inside member
      obtain ⟨source, _, rfl⟩ := List.mem_map.mp inside
      exact absurd (mem_encodePair member) (by decide)
    rw [segments, isSplit, List.filter_eq_self]
    intro part inside
    obtain ⟨source, _, rfl⟩ := List.mem_map.mp inside
    simp [encodePair_ne_nil source]

/-- An encoded query has the pairs it was made of. -/
theorem formPairs_encodeValues (pairs : List (Octets × Octets)) :
    (formPairs (encodeValues pairs)).Perm pairs := by
  have readBack : ∀ sorted : List (Octets × Octets),
      formPairs ([38].intercalate (sorted.map encodePair)) = sorted := by
    intro sorted
    rw [formPairs, segments_intercalate, List.map_map]
    conv_rhs => rw [← List.map_id sorted]
    exact List.map_congr_left fun pair _ => formPair_encodePair pair
  rw [encodeValues, readBack]
  exact List.perm_insertionSort _ pairs

/-- An encoded query is printable and starts no fragment. -/
theorem encodeValues_plain (pairs : List (Octets × Octets)) :
    ∀ octet ∈ encodeValues pairs, octet ≠ 35 ∧ 32 ≤ octet ∧ octet ≠ 127 := by
  have plain : ∀ octet : UInt8, isAlphanumeric octet ∨ octet ∈ octets "-_.~+%" ∨ octet = 61 →
      octet ≠ 35 ∧ 32 ≤ octet ∧ octet ≠ 127 := forall_octet (by decide +kernel)
  intro octet member
  rcases mem_intercalate member with rfl | ⟨part, inside, member⟩
  · decide
  · obtain ⟨source, _, rfl⟩ := List.mem_map.mp inside
    exact plain octet (mem_encodePair member)

theorem encodeValues_ne_nil {pairs : List (Octets × Octets)} (nonempty : pairs ≠ []) :
    encodeValues pairs ≠ [] := by
  intro empty
  have perm := formPairs_encodeValues pairs
  rw [empty] at perm
  exact nonempty (List.nil_perm.mp perm)

end OneIssuer.Wire
