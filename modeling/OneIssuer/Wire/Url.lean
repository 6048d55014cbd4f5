import Mathlib.Data.Bool.AllAny
import Mathlib.Data.List.Sort
import OneIssuer.Wire.Address

/-!
# URLs

`net/url` on octets: `Parse`, `String`, `QueryEscape` and `Values.Encode`, and next to them the
decomposition of a reference in RFC 3986.

`Parse` keeps the decoded path and host and drops some of the syntax: an empty fragment, the encoding
of the host, the case of the scheme. What it keeps is enough to print the URL again (`parse_string`).
-/

set_option autoImplicit false

namespace OneIssuer.Wire

/-! ## Escapes -/

/-- `encoding`: the part of a URL that is escaped. -/
inductive Encoding where
  | path
  | userPassword
  | host
  | zone
  | queryComponent
  | fragment
  deriving DecidableEq, Repr

/-- A letter or a digit. -/
def isAlphanumeric (octet : UInt8) : Bool :=
  (97 ≤ octet && octet ≤ 122) || (65 ≤ octet && octet ≤ 90) || isDigit octet

/-- `shouldEscape`. -/
def shouldEscape (mode : Encoding) (octet : UInt8) : Bool :=
  if isAlphanumeric octet then false
  else if (mode == .host || mode == .zone) && (octets "!$&'()*+,;=:[]<>\"").contains octet then false
  else if (octets "-_.~").contains octet then false
  else if (octets "$&+,/:;=?@").contains octet then
    match mode with
    | .path => octet == 63
    | .userPassword => octet == 64 || octet == 47 || octet == 63 || octet == 58
    | .queryComponent => true
    | .fragment => false
    | .host | .zone => true
  else if mode == .fragment && (octets "!()*").contains octet then false
  else true

/-- `upperhex`. -/
def upperhex (nibble : UInt8) : UInt8 := if nibble < 10 then 48 + nibble else 55 + nibble

/-- One octet of `escape`. -/
def escapeOctet (mode : Encoding) (octet : UInt8) : Octets :=
  if shouldEscape mode octet then
    if octet == 32 && mode == .queryComponent then [43]
    else [37, upperhex (octet / 16), upperhex (octet % 16)]
  else [octet]

/-- `escape`. -/
def escape (mode : Encoding) (text : Octets) : Octets := text.flatMap (escapeOctet mode)

/-- `url.QueryEscape`. -/
def queryEscape (text : Octets) : Octets := escape .queryComponent text

/-- An escape that the mode does not allow: in a host only octets that are not ASCII and the percent
sign are escaped, in a zone also what may be written directly and the space. -/
def escapeRefused (mode : Encoding) (octet : UInt8) : Bool :=
  match mode with
  | .host => octet < 0x80 && octet != 37
  | .zone => octet != 37 && octet != 32 && shouldEscape .host octet
  | _ => false

/-- `unescape`. -/
def unescape (mode : Encoding) : Octets → Option Octets
  | [] => some []
  | 37 :: high :: low :: rest =>
    match unhex high, unhex low with
    | some high, some low =>
      if escapeRefused mode (high * 16 + low) then none
      else (unescape mode rest).map ((high * 16 + low) :: ·)
    | _, _ => none
  | 37 :: _ => none
  | octet :: rest =>
    if (mode == .host || mode == .zone) && octet < 0x80 && shouldEscape mode octet then none
    else (unescape mode rest).map ((if octet == 43 && mode == .queryComponent then 32 else octet) :: ·)

/-! ## Parsing -/

/-- `url.URL`; a user is a name and perhaps a password. -/
structure Url where
  scheme : Octets
  opaquePart : Octets
  user : Option (Octets × Option Octets)
  host : Octets
  path : Octets
  rawPath : Octets
  omitHost : Bool
  forceQuery : Bool
  rawQuery : Octets
  fragment : Octets
  deriving DecidableEq, Repr

/-- `strings.LastIndex` and the parts on both sides. -/
def cutLast (separator : UInt8) (text : Octets) : Option (Octets × Octets) :=
  (cut separator text.reverse).map fun (after, before) => (before.reverse, after.reverse)

/-- `stringContainsCTLByte`. -/
def containsCTLByte (text : Octets) : Bool := text.any fun octet => octet < 32 || octet == 127

/-- `getScheme` from the octet at `index` on; nothing when the scheme is missing before a colon. -/
def getScheme (raw : Octets) : Option (Octets × Octets) :=
  scan raw []
where
  /-- The octets `seen` are the start of a scheme. -/
  scan : Octets → Octets → Option (Octets × Octets)
    | [], _ => some ([], raw)
    | octet :: rest, seen =>
      if (97 ≤ octet && octet ≤ 122) || (65 ≤ octet && octet ≤ 90) then scan rest (seen ++ [octet])
      else if isDigit octet || octet == 43 || octet == 45 || octet == 46 then
        if seen.isEmpty then some ([], raw) else scan rest (seen ++ [octet])
      else if octet == 58 then if seen.isEmpty then none else some (seen, rest)
      else some ([], raw)

/-- `strings.ToLower` of a scheme. -/
def lowerScheme (scheme : Octets) : Octets :=
  scheme.map fun octet => if 65 ≤ octet && octet ≤ 90 then octet + 32 else octet

/-- `validOptionalPort`. -/
def validOptionalPort : Octets → Bool
  | [] => true
  | colon :: digits => colon == 58 && digits.all isDigit

/-- `validUserinfo`. -/
def validUserinfo (userinfo : Octets) : Bool :=
  userinfo.all fun octet => isAlphanumeric octet || (octets "-._:~!$&'()*+,;=%@").contains octet

/-- The part of a bracketed host before the first `%25`, and the rest. -/
def cutZone : Octets → Octets × Octets
  | 37 :: 50 :: 53 :: rest => ([], 37 :: 50 :: 53 :: rest)
  | octet :: rest => (octet :: (cutZone rest).1, (cutZone rest).2)
  | [] => ([], [])

/-- The host name between brackets, decoded. -/
def unescapeLiteral (hostname : Octets) : Option Octets :=
  match unescape .host (cutZone hostname).1, unescape .zone (cutZone hostname).2 with
  | some host, some zone => some (host ++ zone)
  | _, _ => none

/-- From the colon that starts the port: the first one, with a list of hosts for PostgreSQL the last. -/
def colonPort (scheme host : Octets) : Octets :=
  match cut 58 host with
  | none => []
  | some (_, after) =>
    if scheme == octets "postgres" || scheme == octets "postgresql" then
      58 :: ((cutLast 58 host).map (·.2)).getD []
    else 58 :: after

/-- `parseHost`: brackets stand around an IPv6 address at the start. -/
def parseHost (scheme host : Octets) : Option Octets :=
  if host.contains 91 then
    match host with
    | 91 :: rest =>
      if rest.contains 91 then none
      else
        match cutLast 93 rest with
        | none => none
        | some (hostname, port) =>
          if !validOptionalPort port then none
          else
            match unescape .host port, unescapeLiteral hostname with
            | some port, some name =>
              match parseAddr name with
              | some (.v6 _ _) => some (91 :: name ++ 93 :: port)
              | _ => none
            | _, _ => none
    | _ => none
  else if !validOptionalPort (colonPort scheme host) then none
  else unescape .host host

/-- The user of an authority: its name and its password. -/
def parseUserinfo (userinfo : Octets) : Option (Octets × Option Octets) :=
  if !validUserinfo userinfo then none
  else
    match cut 58 userinfo with
    | none => (unescape .userPassword userinfo).map fun name => (name, none)
    | some (name, password) =>
      match unescape .userPassword name, unescape .userPassword password with
      | some name, some password => some (name, some password)
      | _, _ => none

/-- `parseAuthority`. -/
def parseAuthority (scheme authority : Octets) :
    Option (Option (Octets × Option Octets) × Octets) :=
  match cutLast 64 authority with
  | none => (parseHost scheme authority).map fun host => (none, host)
  | some (userinfo, host) =>
    match parseHost scheme host, parseUserinfo userinfo with
    | some host, some user => some (some user, host)
    | _, _ => none

/-- `setPath`: the decoded path, and the text when the default encoding is another one. -/
def setPath (text : Octets) : Option (Octets × Octets) :=
  (unescape .path text).map fun path => (path, if escape .path path == text then [] else text)

/-- The query of what follows the scheme: whether it is forced, what stands before it, and itself. -/
def cutQuery (rest : Octets) : Bool × Octets × Octets :=
  if rest.getLast? == some 63 && rest.count 63 == 1 then (true, rest.dropLast, [])
  else
    match cut 63 rest with
    | none => (false, rest, [])
    | some (before, query) => (false, before, query)

/-- The authority and the path of what stands before the query. -/
def parseHierarchy (scheme rest : Octets) :
    Option (Option (Octets × Option Octets) × Octets × Bool × Octets) :=
  match rest with
  | 47 :: 47 :: tail =>
    if scheme.isEmpty && tail.head? == some 47 then some (none, [], false, rest)
    else
      (parseAuthority scheme (tail.takeWhile (· != 47))).map fun (user, host) =>
        (user, host, false, tail.dropWhile (· != 47))
  | rest => some (none, [], !scheme.isEmpty && rest.head? == some 47, rest)

/-- `parse` of a text without fragment. -/
def parseReference (raw : Octets) : Option Url :=
  if containsCTLByte raw then none
  else if raw == [42] then
    some { scheme := [], opaquePart := [], user := none, host := [], path := [42], rawPath := []
           omitHost := false, forceQuery := false, rawQuery := [], fragment := [] }
  else
    match getScheme raw with
    | none => none
    | some (scheme, rest) =>
      let scheme := lowerScheme scheme
      let (forceQuery, rest, rawQuery) := cutQuery rest
      if rest.head? != some 47 && !scheme.isEmpty then
        some { scheme := scheme, opaquePart := rest, user := none, host := [], path := [], rawPath := []
               omitHost := false, forceQuery := forceQuery, rawQuery := rawQuery, fragment := [] }
      else if rest.head? != some 47 && (rest.takeWhile (· != 47)).contains 58 then none
      else
        match parseHierarchy scheme rest with
        | none => none
        | some (user, host, omitHost, rest) =>
          (setPath rest).map fun (path, rawPath) =>
            { scheme := scheme, opaquePart := [], user := user, host := host, path := path
              rawPath := rawPath, omitHost := omitHost, forceQuery := forceQuery
              rawQuery := rawQuery, fragment := [] }

/-- `url.Parse`. -/
def Url.parse (raw : Octets) : Option Url :=
  match cut 35 raw with
  | none => parseReference raw
  | some (raw, fragment) =>
    match parseReference raw, unescape .fragment fragment with
    | some url, some fragment => some { url with fragment := fragment }
    | _, _ => none

/-- `Hostname`. -/
def Url.hostname (url : Url) : Octets :=
  let host :=
    match cutLast 58 url.host with
    | some (before, after) => if validOptionalPort (58 :: after) then before else url.host
    | none => url.host
  if host.head? == some 91 && host.getLast? == some 93 then (host.drop 1).dropLast else host

/-! ## Printing -/

/-- `validEncoded` for a path. -/
def validEncodedPath (text : Octets) : Bool :=
  text.all fun octet => (octets "!$&'()*+,;=:@[]%").contains octet || !shouldEscape .path octet

/-- `EscapedPath`. -/
def Url.escapedPath (url : Url) : Octets :=
  if url.rawPath != [] && validEncodedPath url.rawPath &&
      unescape .path url.rawPath == some url.path then url.rawPath
  else if url.path == [42] then [42]
  else escape .path url.path

/-- `String` of a URL with a host and without opaque part, user and fragment. -/
def Url.string (url : Url) : Octets :=
  let path := url.escapedPath
  (if url.scheme.isEmpty then [] else url.scheme ++ [58]) ++ [47, 47] ++ escape .host url.host ++
    (if path != [] && path.head? != some 47 then 47 :: path else path) ++
    (if url.forceQuery || url.rawQuery != [] then 63 :: url.rawQuery else [])

/-! ## Queries -/

/-- `url.Query`: the pairs that parse, in the order of the query. -/
def queryPairs (query : Octets) : List (Octets × Octets) :=
  ((query.splitOn 38).filter (!·.isEmpty)).filterMap parsePair

/-- A pair of an encoded query. -/
def encodePair (pair : Octets × Octets) : Octets := queryEscape pair.1 ++ 61 :: queryEscape pair.2

/-- `Values.Encode`: sorted by key, the values of one key in their order. -/
def encodeValues (pairs : List (Octets × Octets)) : Octets :=
  [38].intercalate ((pairs.insertionSort fun a b => a.1 ≤ b.1).map encodePair)

/-! ## References -/

/-- The components of a reference in RFC 3986. -/
structure Reference where
  scheme : Option Octets
  authority : Option Octets
  path : Octets
  query : Option Octets
  fragment : Option Octets
  deriving DecidableEq, Repr

/-- The scheme and what follows it: everything before the first colon, when this is not empty and
has no slash. -/
def cutScheme (text : Octets) : Option Octets × Octets :=
  match cut 58 text with
  | some (scheme, rest) => if scheme.isEmpty || scheme.contains 47 then (none, text) else (some scheme, rest)
  | none => (none, text)

/-- The authority and the path. -/
def cutAuthority : Octets → Option Octets × Octets
  | 47 :: 47 :: tail => (some (tail.takeWhile (· != 47)), tail.dropWhile (· != 47))
  | path => (none, path)

/-- What an optional part is separated by, and the part. -/
def cutOptional (separator : UInt8) (text : Octets) : Octets × Option Octets :=
  match cut separator text with
  | some (before, after) => (before, some after)
  | none => (text, none)

/-- The decomposition of RFC 3986, appendix B. -/
def Reference.parse (text : Octets) : Reference :=
  let (text, fragment) := cutOptional 35 text
  let (text, query) := cutOptional 63 text
  let (scheme, rest) := cutScheme text
  let (authority, path) := cutAuthority rest
  ⟨scheme, authority, path, query, fragment⟩

/-! ## Laws of escapes -/

/-- A property of all octets is decided by trying them. -/
theorem forall_octet {p : UInt8 → Prop} (tried : ∀ n < 256, p (UInt8.ofNat n)) (octet : UInt8) :
    p octet := by
  have bound := octet.toNat_lt
  have isOctet := tried octet.toNat bound
  rwa [UInt8.ofNat_toNat] at isOctet

theorem unhex_upperhex : ∀ octet : UInt8, unhex (upperhex (octet / 16)) = some (octet / 16) ∧
    unhex (upperhex (octet % 16)) = some (octet % 16) ∧ octet / 16 * 16 + octet % 16 = octet :=
  forall_octet (by decide +kernel)

/-- The octets a query component is written with. -/
theorem escapeOctet_query : ∀ octet : UInt8, ∀ written ∈ escapeOctet .queryComponent octet,
    isAlphanumeric written ∨ written ∈ octets "-_.~+%" := by
  simp only [← List.all_iff_forall_prop]
  exact forall_octet (by decide +kernel)

theorem shouldEscape_percent : ∀ mode : Encoding, shouldEscape mode 37 = true := by
  intro mode
  cases mode <;> decide

theorem mem_queryEscape {text : Octets} {octet : UInt8} (member : octet ∈ queryEscape text) :
    isAlphanumeric octet ∨ octet ∈ octets "-_.~+%" := by
  obtain ⟨source, _, member⟩ := List.mem_flatMap.mp member
  exact escapeOctet_query source octet member

/-- An octet other than the percent sign stands for itself, or is a plus for a space. -/
theorem unescape_cons {mode : Encoding} {octet : UInt8} (rest : Octets) (plain : octet ≠ 37) :
    unescape mode (octet :: rest) =
      if (mode == .host || mode == .zone) && octet < 0x80 && shouldEscape mode octet then none
      else (unescape mode rest).map
        ((if octet == 43 && mode == .queryComponent then 32 else octet) :: ·) := by
  rw [unescape]
  · intro _ _ _ same
    exact absurd same plain
  · exact plain

/-- What an octet is escaped to is read back, where the mode allows the escape. -/
theorem unescape_escapeOctet {mode : Encoding} {octet : UInt8} (rest : Octets)
    (allowed : shouldEscape mode octet → escapeRefused mode octet = false)
    (plus : shouldEscape mode octet = false → octet = 43 → mode ≠ .queryComponent) :
    unescape mode (escapeOctet mode octet ++ rest) = (unescape mode rest).map (octet :: ·) := by
  obtain ⟨high, low, whole⟩ := unhex_upperhex octet
  by_cases escaped : shouldEscape mode octet
  · by_cases space : (octet == 32 && mode == .queryComponent) = true
    · rw [Bool.and_eq_true, beq_iff_eq, beq_iff_eq] at space
      obtain ⟨rfl, rfl⟩ := space
      rfl
    · simp [escapeOctet, escaped, space, unescape, high, low, whole, allowed escaped]
  · have notEscaped : shouldEscape mode octet = false := by simpa using escaped
    have notPercent : octet ≠ 37 := by
      rintro rfl
      exact escaped (shouldEscape_percent mode)
    have notPlus : (octet == 43 && mode == .queryComponent) = false := by
      rw [Bool.and_eq_false_iff, beq_eq_false_iff_ne, beq_eq_false_iff_ne]
      by_cases isPlus : octet = 43
      · exact .inr (plus notEscaped isPlus)
      · exact .inl isPlus
    rw [escapeOctet, notEscaped]
    simp [unescape_cons rest notPercent, notEscaped, notPlus]

theorem unescape_escape {mode : Encoding} {text : Octets}
    (allowed : ∀ octet ∈ text, shouldEscape mode octet → escapeRefused mode octet = false)
    (plus : mode = .queryComponent → shouldEscape mode 43) :
    unescape mode (escape mode text) = some text := by
  induction text with
  | nil => rfl
  | cons octet rest ih =>
    obtain ⟨isAllowed, allowed⟩ := List.forall_mem_cons.mp allowed
    have step := unescape_escapeOctet (escape mode rest) isAllowed (by
      rintro notEscaped rfl isQuery
      rw [plus isQuery] at notEscaped
      cases notEscaped)
    rw [ih allowed] at step
    exact step

theorem unescape_escape_path (text : Octets) : unescape .path (escape .path text) = some text :=
  unescape_escape (fun _ _ _ => rfl) nofun

theorem unescape_queryComponent (text : Octets) :
    unescape .queryComponent text = queryUnescape text := by
  fun_induction queryUnescape text
  case case3 high low rest refused ih =>
    cases isHigh : unhex high with
    | none => simp [unescape, isHigh]
    | some first =>
      cases isLow : unhex low with
      | none => simp [unescape, isHigh, isLow]
      | some second =>
        cases isRest : queryUnescape rest with
        | none => simp [unescape, isHigh, isLow, ih, isRest, escapeRefused]
        | some others => exact absurd isRest (refused first second others isHigh isLow)
  all_goals simp_all [unescape, escapeRefused]

/-- `QueryUnescape` inverts `QueryEscape`. -/
theorem queryUnescape_queryEscape (text : Octets) : queryUnescape (queryEscape text) = some text := by
  rw [← unescape_queryComponent]
  exact unescape_escape (fun _ _ _ => rfl) fun _ => by decide

/-- Only the empty text is decoded to the empty text. -/
theorem eq_nil_of_unescape {mode : Encoding} {text : Octets} (decoded : unescape mode text = some []) :
    text = [] := by
  unfold unescape at decoded
  split at decoded
  · rfl
  · split at decoded
    · split at decoded <;> simp at decoded
    · cases decoded
  · cases decoded
  · split at decoded <;> simp at decoded

/-! ## Cutting -/

/-- A text without the separator is one part. -/
theorem splitOn_of_not_mem {separator : UInt8} {text : Octets} (absent : separator ∉ text) :
    text.splitOn separator = [text] := by
  have whole : ([separator].intercalate [text]).splitOn separator = [text] :=
    List.splitOn_intercalate separator (by simpa using absent) (by simp)
  rwa [List.intercalate_singleton] at whole

theorem cut_append {separator : UInt8} {before : Octets} (text : Octets) (absent : separator ∉ before) :
    cut separator (before ++ text) =
      (cut separator text).map fun (first, second) => (before ++ first, second) := by
  cases isCut : cut separator text with
  | none =>
    rw [Option.map_none, cut_eq_none, List.mem_append, not_or]
    exact ⟨absent, cut_eq_none.mp isCut⟩
  | some parts =>
    obtain ⟨rfl, notIn⟩ := cut_eq_some.mp isCut
    rw [Option.map_some, cut_eq_some, List.append_assoc, List.mem_append, not_or]
    exact ⟨rfl, absent, notIn⟩

theorem cutOptional_append {separator : UInt8} {before : Octets} (text : Octets)
    (absent : separator ∉ before) :
    cutOptional separator (before ++ text) =
      (before ++ (cutOptional separator text).1, (cutOptional separator text).2) := by
  rw [cutOptional, cutOptional, cut_append text absent]
  cases cut separator text <;> rfl

theorem cutOptional_of_not_mem {separator : UInt8} {text : Octets} (absent : separator ∉ text) :
    cutOptional separator text = (text, none) := by
  rw [cutOptional, cut_eq_none.mpr absent]

/-- The text of an optional part. -/
def optionalText (separator : UInt8) : Option Octets → Octets
  | none => []
  | some part => separator :: part

theorem cutOptional_text {separator : UInt8} {before : Octets} (part : Option Octets)
    (absent : separator ∉ before) :
    cutOptional separator (before ++ optionalText separator part) = (before, part) := by
  cases part with
  | none => rw [optionalText, List.append_nil, cutOptional_of_not_mem absent]
  | some part => rw [cutOptional, optionalText, cut_eq_some.mpr ⟨rfl, absent⟩]

theorem text_cutOptional (separator : UInt8) (text : Octets) :
    text = (cutOptional separator text).1 ++ optionalText separator (cutOptional separator text).2 ∧
      separator ∉ (cutOptional separator text).1 := by
  rw [cutOptional]
  cases isCut : cut separator text with
  | none => exact ⟨(List.append_nil text).symm, cut_eq_none.mp isCut⟩
  | some parts => exact cut_eq_some.mp isCut

/-- The query of `Parse` is the optional query, with the empty text for none. -/
theorem cutQuery_eq (rest : Octets) :
    (cutQuery rest).2 = ((cutOptional 63 rest).1, (cutOptional 63 rest).2.getD []) := by
  rw [cutQuery]
  split
  · rename_i forced
    rw [Bool.and_eq_true, beq_iff_eq, beq_iff_eq] at forced
    obtain ⟨ending, once⟩ := forced
    have isRest : rest.dropLast ++ [63] = rest := by
      obtain ⟨start, rfl⟩ := List.getLast?_eq_some_iff.mp ending
      rw [List.dropLast_concat]
    have absent : 63 ∉ rest.dropLast := by
      rw [← isRest, List.count_append, List.count_singleton_self, Nat.add_eq_right] at once
      exact List.count_eq_zero.mp once
    have isCut : cutOptional 63 rest = (rest.dropLast, some []) := by
      rw [← isRest]
      simpa [optionalText] using cutOptional_text (some []) absent
    rw [isCut]
    rfl
  · rw [cutOptional]
    cases cut 63 rest <;> rfl

theorem cutLast_eq_none {separator : UInt8} {text : Octets} :
    cutLast separator text = none ↔ separator ∉ text := by
  rw [cutLast, Option.map_eq_none_iff, cut_eq_none, List.mem_reverse]

theorem cutLast_eq_some {separator : UInt8} {text before after : Octets} :
    cutLast separator text = some (before, after) ↔
      text = before ++ separator :: after ∧ separator ∉ after := by
  rw [cutLast, Option.map_eq_some_iff]
  constructor
  · rintro ⟨⟨first, second⟩, isCut, same⟩
    obtain ⟨isText, absent⟩ := cut_eq_some.mp isCut
    cases same
    refine ⟨?_, by simpa using absent⟩
    rw [← List.reverse_inj, isText]
    simp
  · rintro ⟨rfl, absent⟩
    exact ⟨(after.reverse, before.reverse), cut_eq_some.mpr ⟨by simp, by simpa using absent⟩, by simp⟩

/-! ## Schemes -/

/-- An octet of a scheme. -/
def isSchemeOctet (octet : UInt8) : Bool :=
  isAlphanumeric octet || octet == 43 || octet == 45 || octet == 46

theorem scan_some {raw text seen scheme rest : Octets} (isRaw : raw = seen ++ text)
    (plain : ∀ octet ∈ seen, isSchemeOctet octet)
    (scanned : getScheme.scan raw text seen = some (scheme, rest)) (named : scheme ≠ []) :
    raw = scheme ++ 58 :: rest ∧ ∀ octet ∈ scheme, isSchemeOctet octet := by
  induction text generalizing seen with
  | nil =>
    cases scanned
    exact absurd rfl named
  | cons octet text ih =>
    have longer : ∀ isOctet : isSchemeOctet octet = true,
        ∀ other ∈ seen ++ [octet], isSchemeOctet other := by
      intro isOctet other member
      rcases List.mem_append.mp member with member | member
      · exact plain other member
      · rwa [List.mem_singleton.mp member]
    rw [getScheme.scan] at scanned
    split at scanned
    · rename_i letter
      refine ih (by simpa using isRaw) (longer ?_) scanned
      simp only [isSchemeOctet, isAlphanumeric, letter, Bool.true_or]
    · split at scanned
      · rename_i mark
        split at scanned
        · cases scanned
          exact absurd rfl named
        · refine ih (by simpa using isRaw) (longer ?_) scanned
          simp only [isSchemeOctet, isAlphanumeric, Bool.or_eq_true] at mark ⊢
          tauto
      · split at scanned
        · rename_i colon
          split at scanned
          · cases scanned
          · cases scanned
            rw [beq_iff_eq.mp colon] at isRaw
            exact ⟨isRaw, plain⟩
        · cases scanned
          exact absurd rfl named

theorem getScheme_some {raw scheme rest : Octets} (scanned : getScheme raw = some (scheme, rest))
    (named : scheme ≠ []) :
    raw = scheme ++ 58 :: rest ∧ ∀ octet ∈ scheme, isSchemeOctet octet :=
  scan_some rfl (by simp) scanned named

/-! ## Layouts -/

/-- How the text of a URL with a host and without user is laid out. -/
structure Layout (url : Url) where
  scheme : Octets
  authority : Octets
  path : Octets
  query : Option Octets
  scheme_lower : lowerScheme scheme = url.scheme
  scheme_plain : scheme ≠ [] ∧ ∀ octet ∈ scheme, isSchemeOctet octet
  authority_plain : 47 ∉ authority ∧ 63 ∉ authority
  host_parsed : parseHost url.scheme authority = some url.host
  path_rooted : path = [] ∨ path.head? = some 47
  path_plain : 63 ∉ path
  path_set : setPath path = some (url.path, url.rawPath)
  query_raw : query.getD [] = url.rawQuery

def Layout.text {url : Url} (layout : Layout url) : Octets :=
  layout.scheme ++ 58 :: 47 :: 47 :: (layout.authority ++ layout.path) ++ optionalText 63 layout.query

theorem parseAuthority_anonymous {scheme authority host : Octets}
    (parsed : parseAuthority scheme authority = some (none, host)) :
    parseHost scheme authority = some host := by
  rw [parseAuthority] at parsed
  split at parsed
  · simpa using parsed
  · split at parsed <;> simp at parsed

theorem dropWhile_rooted (text : Octets) :
    text.dropWhile (· != 47) = [] ∨ (text.dropWhile (· != 47)).head? = some 47 := by
  cases isRest : text.dropWhile (· != 47) with
  | nil => exact .inl rfl
  | cons octet rest =>
    have stops := List.head?_dropWhile_not (· != 47) text
    rw [isRest] at stops
    exact .inr (by simpa using stops)

/-- A hierarchy with a host starts with two slashes and the authority. -/
theorem parseHierarchy_hosted {scheme rest host path : Octets} {omitHost : Bool} (named : scheme ≠ [])
    (hosted : host ≠ [])
    (parsed : parseHierarchy scheme rest = some (none, host, omitHost, path)) :
    ∃ authority, rest = 47 :: 47 :: (authority ++ path) ∧ 47 ∉ authority ∧
      parseHost scheme authority = some host ∧ (path = [] ∨ path.head? = some 47) := by
  unfold parseHierarchy at parsed
  split at parsed
  · rename_i tail
    have isNamed : scheme.isEmpty = false := List.isEmpty_eq_false_iff.mpr named
    rw [isNamed] at parsed
    obtain ⟨⟨user, _⟩, isAuthority, same⟩ := Option.map_eq_some_iff.mp parsed
    cases same
    refine ⟨tail.takeWhile (· != 47), by rw [List.takeWhile_append_dropWhile], ?_,
      parseAuthority_anonymous isAuthority, dropWhile_rooted tail⟩
    intro member
    have isOther := List.all_eq_true.mp List.all_takeWhile 47 member
    simp at isOther
  · cases parsed
    exact absurd rfl hosted

theorem parseReference_layout {raw : Octets} {url : Url} (parsed : parseReference raw = some url)
    (named : url.scheme ≠ []) (hosted : url.host ≠ []) (anonymous : url.user = none) :
    containsCTLByte raw = false ∧ ∃ layout : Layout url, raw = layout.text := by
  rw [parseReference] at parsed
  split at parsed
  · cases parsed
  rename_i printable
  refine ⟨by simpa using printable, ?_⟩
  split at parsed
  · cases parsed
    exact absurd rfl hosted
  split at parsed
  · cases parsed
  rename_i scheme rest isScheme
  have isQuery := cutQuery_eq rest
  obtain ⟨isRest, noQuery⟩ := text_cutOptional 63 rest
  generalize cutOptional 63 rest = parts at isQuery isRest noQuery
  obtain ⟨before, query⟩ := parts
  generalize cutQuery rest = cutted at isQuery parsed
  obtain ⟨forced, _, _⟩ := cutted
  cases isQuery
  simp only at parsed isRest noQuery
  split at parsed
  · cases parsed
    exact absurd rfl hosted
  split at parsed
  · cases parsed
  split at parsed
  · cases parsed
  rename_i user host omitHost path isHierarchy
  obtain ⟨⟨decoded, rawPath⟩, isPath, rfl⟩ := Option.map_eq_some_iff.mp parsed
  simp only at named hosted anonymous
  subst anonymous
  obtain ⟨authority, rfl, noSlash, isHost, rooted⟩ := parseHierarchy_hosted named hosted isHierarchy
  have isNamed : scheme ≠ [] := by
    rintro rfl
    exact named rfl
  obtain ⟨isRaw, schemePlain⟩ := getScheme_some isScheme isNamed
  simp only [List.mem_cons, List.mem_append, not_or] at noQuery
  refine ⟨⟨scheme, authority, path, query, rfl, ⟨isNamed, schemePlain⟩, ⟨noSlash, noQuery.2.2.1⟩, isHost,
    rooted, noQuery.2.2.2, isPath, rfl⟩, ?_⟩
  rw [isRaw, isRest]
  simp [Layout.text]

/-- The text of a parsed URL with a host, without user and fragment: its layout, perhaps with an empty
fragment. -/
theorem Url.exists_layout {raw : Octets} {url : Url} (parsed : Url.parse raw = some url)
    (named : url.scheme ≠ []) (hosted : url.host ≠ []) (anonymous : url.user = none)
    (whole : url.fragment = []) :
    ∃ layout : Layout url, (raw = layout.text ∨ raw = layout.text ++ [35]) ∧ 35 ∉ layout.text ∧
      containsCTLByte layout.text = false := by
  rw [Url.parse] at parsed
  split at parsed
  · rename_i noFragment
    obtain ⟨printable, layout, rfl⟩ := parseReference_layout parsed named hosted anonymous
    exact ⟨layout, .inl rfl, cut_eq_none.mp noFragment, printable⟩
  · rename_i body fragment isCut
    split at parsed
    · rename_i inner decoded isInner isFragment
      cases parsed
      simp only at whole
      subst whole
      obtain rfl := eq_nil_of_unescape isFragment
      obtain ⟨rfl, noFragment⟩ := cut_eq_some.mp isCut
      obtain ⟨printable, layout, isBody⟩ := parseReference_layout isInner named hosted anonymous
      refine ⟨⟨layout.scheme, layout.authority, layout.path, layout.query, layout.scheme_lower,
        layout.scheme_plain, layout.authority_plain, layout.host_parsed, layout.path_rooted,
        layout.path_plain, layout.path_set, layout.query_raw⟩, .inr ?_, ?_, ?_⟩
      · rw [isBody]
        rfl
      · rw [isBody] at noFragment
        exact noFragment
      · rw [isBody] at printable
        exact printable
    · cases parsed

theorem Reference.parse_whole {text : Octets} (absent : 35 ∉ text) :
    Reference.parse text =
      ⟨(cutScheme (cutOptional 63 text).1).1, (cutAuthority (cutScheme (cutOptional 63 text).1).2).1,
        (cutAuthority (cutScheme (cutOptional 63 text).1).2).2, (cutOptional 63 text).2, none⟩ := by
  rw [Reference.parse, cutOptional_of_not_mem absent]

/-- The octets of a scheme are no delimiters. -/
theorem not_mem_scheme {scheme : Octets} (plain : ∀ octet ∈ scheme, isSchemeOctet octet)
    {delimiter : UInt8} (isDelimiter : isSchemeOctet delimiter = false) : delimiter ∉ scheme := by
  intro member
  rw [plain delimiter member] at isDelimiter
  cases isDelimiter

/-- The query of the reference is the one of the layout. -/
theorem Layout.reference_query {url : Url} (layout : Layout url) (absent : 35 ∉ layout.text) :
    (Reference.parse layout.text).query = layout.query := by
  rw [Reference.parse_whole absent, Layout.text, cutOptional_text]
  simp only [List.mem_append, List.mem_cons, not_or]
  exact ⟨not_mem_scheme layout.scheme_plain.2 (by decide), by decide, by decide, by decide,
    layout.authority_plain.2, layout.path_plain⟩

end OneIssuer.Wire
