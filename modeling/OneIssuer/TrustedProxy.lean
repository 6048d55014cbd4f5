import OneIssuer.Wire.Address

/-!
# Trusted proxies

`trustedProxyMiddleware` decides which address a request is rate limited under. A peer outside the
trusted prefixes is that address itself. Behind a trusted peer the middleware reads the entries of
`X-Forwarded-For` from the right and takes the first one that is not trusted.

It parses all entries first, and falls back to the peer when one of them is no address: malformed chains
are ignored, as the configuration guide says. So what a client writes before the entries of the proxies,
or that it writes nothing, has no say exactly as long as it parses; with any other text the client is
limited under the address of the proxy (`client_address_chosen_iff`).

The walk is followed through the list of parsed addresses: the entries of the proxies end it before it
reaches those of the client (`forwardedClientIP_of_parsed`).

**What it does not establish.** Nothing says that the entries of the suffix are what the proxies saw: a
proxy that hands on a forged line, or a prefix list with addresses of clients, is outside. The scheme and
the host that the middleware also takes from headers are modelled, and no result is about them.
-/

set_option autoImplicit false

namespace OneIssuer.TrustedProxy

open Wire

/-- What the middleware reads of a request: the peer and the three forwarding headers. -/
structure Request where
  remoteAddr : Octets
  forwardedFor : List Octets
  forwardedProto : Octets
  forwardedHost : Octets

/-- `ProxyInfo`. -/
structure ProxyInfo where
  clientIP : Addr
  scheme : Octets
  host : Octets
  trusted : Bool
  deriving DecidableEq, Repr

/-- `remoteIP`. -/
def remoteIP (remoteAddr : Octets) : Addr :=
  match splitHostPort remoteAddr with
  | none => .invalid
  | some (host, _) =>
    match parseAddr host with
    | none => .invalid
    | some address => address.unmap

/-- `addressInPrefixes`. -/
def addressInPrefixes (address : Addr) (prefixes : List Network) : Bool :=
  prefixes.any (·.contains address.unmap)

/-- The address of one entry of `X-Forwarded-For`. -/
def entryAddress (part : Octets) : Option Addr := (parseAddr (trimSpace part)).map Addr.unmap

/-- The entries of all lines. -/
def entries (headerValues : List Octets) : List Octets := headerValues.flatMap (·.splitOn 44)

/-- `forwardedClientIP`. -/
def forwardedClientIP (headerValues : List Octets) (peer : Addr) (trusted : List Network) : Addr :=
  match (entries headerValues).mapM entryAddress with
  | none => peer
  | some addresses =>
    let chain := addresses ++ [peer]
    match chain.reverse.find? (!addressInPrefixes · trusted) with
    | some address => address
    | none => chain.headD peer

/-- `firstHeaderValue`; `toLower` is `strings.ToLower`. -/
def firstHeaderValue (toLower : Octets → Octets) (value : Octets) : Octets :=
  toLower (trimSpace (((cut 44 value).map (·.1)).getD value))

/-- `sanitizeForwardedHost`. -/
def sanitizeForwardedHost (host : Octets) : Octets :=
  let host := trimSpace host
  if host.isEmpty || host.any (octets "\r\n/\\@").contains || 255 < host.length then [] else host

/-- `trustedProxyMiddleware`: what it hands on about the connection. -/
def trustedProxyMiddleware (toLower : Octets → Octets) (prefixes : List Network) (request : Request) :
    ProxyInfo :=
  let peer := remoteIP request.remoteAddr
  if peer.isValid && addressInPrefixes peer prefixes then
    let scheme := firstHeaderValue toLower request.forwardedProto
    { clientIP := forwardedClientIP request.forwardedFor peer prefixes
      scheme := if scheme == octets "http" || scheme == octets "https" then scheme else []
      host := sanitizeForwardedHost (firstHeaderValue toLower request.forwardedHost)
      trusted := true }
  else { clientIP := peer, scheme := [], host := [], trusted := false }

/-! ## The walk -/

/-- The last untrusted address of the entries: those after it are trusted. -/
def RightmostUntrusted (prefixes : List Network) (suffix : List Octets) (address : Addr) : Prop :=
  ∃ before entry after, suffix = before ++ entry :: after ∧ entryAddress entry = some address ∧
    addressInPrefixes address prefixes = false ∧
    ∀ other ∈ after, ∃ proxy, entryAddress other = some proxy ∧ addressInPrefixes proxy prefixes

section Walk

variable {prefixes : List Network} {headerValues : List Octets} {peer address : Addr}
  {suffix before : List Octets}

/-- Entries that are all addresses have a list of addresses. -/
theorem exists_mapM_entryAddress (valid : ∀ entry ∈ suffix, (entryAddress entry).isSome) :
    ∃ addresses, suffix.mapM entryAddress = some addresses ∧
      ∀ address ∈ addresses, ∃ entry ∈ suffix, entryAddress entry = some address := by
  induction suffix with
  | nil => exact ⟨[], rfl, nofun⟩
  | cons entry rest ih =>
    obtain ⟨isValid, valid⟩ := List.forall_mem_cons.mp valid
    obtain ⟨first, isFirst⟩ := Option.isSome_iff_exists.mp isValid
    obtain ⟨others, areOthers, origins⟩ := ih valid
    refine ⟨first :: others, by simp [List.mapM_cons, isFirst, areOthers], ?_⟩
    intro address member
    rcases List.mem_cons.mp member with rfl | member
    · exact ⟨entry, List.mem_cons_self, isFirst⟩
    · obtain ⟨origin, inside, isAddress⟩ := origins address member
      exact ⟨origin, List.mem_cons_of_mem _ inside, isAddress⟩

theorem mapM_entryAddress_none {entry : Octets} (member : entry ∈ suffix)
    (unparsed : entryAddress entry = none) : suffix.mapM entryAddress = none := by
  induction suffix with
  | nil => cases member
  | cons first rest ih =>
    rcases List.mem_cons.mp member with rfl | member
    · simp [List.mapM_cons, unparsed]
    · simp [List.mapM_cons, ih member]

/-- One entry that is no address, and the peer is the client. -/
theorem forwardedClientIP_of_unparsed {entry : Octets} (member : entry ∈ entries headerValues)
    (unparsed : entryAddress entry = none) :
    forwardedClientIP headerValues peer prefixes = peer := by
  rw [forwardedClientIP, mapM_entryAddress_none member unparsed]

/-- Behind a trusted peer, addresses give the last untrusted one. -/
theorem forwardedClientIP_of_parsed (trusted : addressInPrefixes peer prefixes)
    (valid : ∀ entry ∈ entries headerValues, (entryAddress entry).isSome)
    (rightmost : RightmostUntrusted prefixes (entries headerValues) address) :
    forwardedClientIP headerValues peer prefixes = address := by
  obtain ⟨before, entry, after, isEntries, isAddress, untrusted, proxies⟩ := rightmost
  rw [isEntries] at valid
  obtain ⟨earlier, areEarlier, _⟩ := exists_mapM_entryAddress fun other member =>
    valid other (List.mem_append_left _ member)
  obtain ⟨later, areLater, origins⟩ := exists_mapM_entryAddress fun other member =>
    valid other (List.mem_append_right before (List.mem_cons_of_mem entry member))
  have chain : (entries headerValues).mapM entryAddress = some (earlier ++ address :: later) := by
    simp [isEntries, List.mapM_append, List.mapM_cons, areEarlier, areLater, isAddress]
  have passed : later.reverse.find? (!addressInPrefixes · prefixes) = none := by
    rw [List.find?_eq_none]
    intro proxy member
    obtain ⟨origin, inside, isProxy⟩ := origins proxy (List.mem_reverse.mp member)
    obtain ⟨same, isSame, isTrusted⟩ := proxies origin inside
    cases isProxy.symm.trans isSame
    simp [isTrusted]
  simp [forwardedClientIP, chain, List.find?_append, trusted, passed, untrusted]

/-- Valid entries of which one is untrusted have a last untrusted one. -/
theorem exists_rightmostUntrusted (valid : ∀ entry ∈ suffix, (entryAddress entry).isSome)
    (untrusted : ∃ entry ∈ suffix, ∃ address, entryAddress entry = some address ∧
      addressInPrefixes address prefixes = false) :
    ∃ address, RightmostUntrusted prefixes suffix address := by
  induction suffix with
  | nil =>
    obtain ⟨entry, member, _⟩ := untrusted
    cases member
  | cons first rest ih =>
    have others := (List.forall_mem_cons.mp valid).2
    by_cases later : ∃ entry ∈ rest, ∃ address, entryAddress entry = some address ∧
        addressInPrefixes address prefixes = false
    · obtain ⟨address, before, entry, after, rfl, found⟩ := ih others later
      exact ⟨address, first :: before, entry, after, rfl, found⟩
    · obtain ⟨entry, member, address, isAddress, isUntrusted⟩ := untrusted
      rcases List.mem_cons.mp member with rfl | member
      · refine ⟨address, [], entry, rest, rfl, isAddress, isUntrusted, ?_⟩
        intro other inside
        obtain ⟨proxy, isProxy⟩ := Option.isSome_iff_exists.mp (others other inside)
        refine ⟨proxy, isProxy, ?_⟩
        by_contra isUntrusted
        exact later ⟨other, inside, proxy, isProxy, by simpa using isUntrusted⟩
      · exact absurd ⟨entry, member, address, isAddress, isUntrusted⟩ later

/-- Entries before it do not change the last untrusted one. -/
theorem RightmostUntrusted.append (rightmost : RightmostUntrusted prefixes suffix address)
    (before : List Octets) : RightmostUntrusted prefixes (before ++ suffix) address := by
  obtain ⟨earlier, entry, after, rfl, found⟩ := rightmost
  exact ⟨before ++ earlier, entry, after, by simp, found⟩

end Walk

/-! ## What a client can choose -/

/-- The entries of what a client wrote, if it wrote anything. -/
def clientEntries (client : Option Octets) : List Octets := (client.map (·.splitOn 44)).getD []

/-- The lines that arrive when a client wrote `client`, or no such header, and the proxies appended the
entries of `suffix`. -/
def Forwards (client : Option Octets) (suffix headerValues : List Octets) : Prop :=
  entries headerValues = clientEntries client ++ suffix

section Lines

variable {suffix : List Octets} (nonempty : suffix ≠ []) (plain : ∀ entry ∈ suffix, 44 ∉ entry)
include nonempty plain

/-- The proxies go on in the line of the client. -/
theorem forwards_same_line (client : Octets) :
    Forwards (some client) suffix [client ++ 44 :: [44].intercalate suffix] := by
  simp [Forwards, clientEntries, entries, List.splitOn_append_cons_self,
    List.splitOn_intercalate 44 plain nonempty]

/-- The proxies add a line of their own, the only one when the client sent none. -/
theorem forwards_own_line (client : Option Octets) :
    Forwards client suffix (client.toList ++ [[44].intercalate suffix]) := by
  cases client <;>
    simp [Forwards, clientEntries, entries, List.splitOn_intercalate 44 plain nonempty]

end Lines

/-- All entries of the client are addresses. -/
def Parses (client : Option Octets) : Prop :=
  ∀ entry ∈ clientEntries client, (entryAddress entry).isSome

instance (client : Option Octets) : Decidable (Parses client) :=
  inferInstanceAs (Decidable (∀ entry ∈ clientEntries client, _))

section Chosen

variable {toLower : Octets → Octets} {prefixes : List Network} {request : Request}
  {client : Option Octets} {suffix : List Octets} {address : Addr}

theorem clientIP_of_trusted (valid : (remoteIP request.remoteAddr).isValid)
    (trusted : addressInPrefixes (remoteIP request.remoteAddr) prefixes) :
    (trustedProxyMiddleware toLower prefixes request).clientIP =
      forwardedClientIP request.forwardedFor (remoteIP request.remoteAddr) prefixes := by
  simp [trustedProxyMiddleware, valid, trusted]

/-- A client with an entry that is no address is taken for the proxy. -/
theorem clientIP_of_unparsed (valid : (remoteIP request.remoteAddr).isValid)
    (trusted : addressInPrefixes (remoteIP request.remoteAddr) prefixes)
    (forwards : Forwards client suffix request.forwardedFor) (unparsed : ¬ Parses client) :
    (trustedProxyMiddleware toLower prefixes request).clientIP = remoteIP request.remoteAddr := by
  simp only [Parses, not_forall, Option.not_isSome_iff_eq_none] at unparsed
  obtain ⟨entry, member, isNone⟩ := unparsed
  have inside : entry ∈ entries request.forwardedFor := forwards ▸ List.mem_append_left _ member
  rw [clientIP_of_trusted valid trusted, forwardedClientIP_of_unparsed inside isNone]

/-- The computed address is the last untrusted one exactly when the entries of the client parse. -/
theorem clientIP_eq_iff (valid : (remoteIP request.remoteAddr).isValid)
    (trusted : addressInPrefixes (remoteIP request.remoteAddr) prefixes)
    (parsed : ∀ entry ∈ suffix, (entryAddress entry).isSome)
    (rightmost : RightmostUntrusted prefixes suffix address)
    (forwards : Forwards client suffix request.forwardedFor) :
    (trustedProxyMiddleware toLower prefixes request).clientIP = address ↔ Parses client := by
  constructor
  · intro found
    by_contra unparsed
    rw [clientIP_of_unparsed valid trusted forwards unparsed] at found
    obtain ⟨_, _, _, _, _, untrusted, _⟩ := rightmost
    rw [found, untrusted] at trusted
    cases trusted
  · intro parses
    rw [clientIP_of_trusted valid trusted]
    refine forwardedClientIP_of_parsed trusted ?_ (forwards ▸ rightmost.append _)
    rw [forwards]
    intro entry member
    rcases List.mem_append.mp member with member | member
    · exact parses entry member
    · exact parsed entry member

end Chosen

/-- Behind a trusted peer and a suffix of valid entries with an untrusted one, two clients are given the
same address, the last untrusted one of the suffix, exactly when what they wrote before it parses; with
anything else a client is given the address of the peer. An untrusted peer is the address whatever the
headers say. -/
theorem client_address_chosen_iff (toLower : Octets → Octets) (prefixes : List Network) :
    (∀ (first second : Request) (client₁ client₂ : Option Octets) (suffix : List Octets),
      second.remoteAddr = first.remoteAddr →
      (remoteIP first.remoteAddr).isValid →
      addressInPrefixes (remoteIP first.remoteAddr) prefixes →
      (∀ entry ∈ suffix, (entryAddress entry).isSome) →
      (∃ entry ∈ suffix, ∃ address, entryAddress entry = some address ∧
        addressInPrefixes address prefixes = false) →
      Forwards client₁ suffix first.forwardedFor → Forwards client₂ suffix second.forwardedFor →
      ∃ address, RightmostUntrusted prefixes suffix address ∧
        ((trustedProxyMiddleware toLower prefixes first).clientIP =
            (trustedProxyMiddleware toLower prefixes second).clientIP ∧
          (trustedProxyMiddleware toLower prefixes first).clientIP = address ↔
          Parses client₁ ∧ Parses client₂) ∧
        (¬ Parses client₁ → (trustedProxyMiddleware toLower prefixes first).clientIP =
          remoteIP first.remoteAddr)) ∧
      (∀ request : Request, addressInPrefixes (remoteIP request.remoteAddr) prefixes = false →
        (trustedProxyMiddleware toLower prefixes request).clientIP = remoteIP request.remoteAddr) := by
  constructor
  · intro first second client₁ client₂ suffix samePeer valid trusted parsed untrusted forwards₁ forwards₂
    obtain ⟨address, rightmost⟩ := exists_rightmostUntrusted parsed untrusted
    have left : (trustedProxyMiddleware toLower prefixes first).clientIP = address ↔ Parses client₁ :=
      clientIP_eq_iff valid trusted parsed rightmost forwards₁
    have right : (trustedProxyMiddleware toLower prefixes second).clientIP = address ↔ Parses client₂ :=
      clientIP_eq_iff (samePeer ▸ valid) (samePeer ▸ trusted) parsed rightmost forwards₂
    refine ⟨address, rightmost, ?_, clientIP_of_unparsed valid trusted forwards₁⟩
    rw [← left, ← right]
    constructor
    · rintro ⟨same, found⟩
      exact ⟨found, same ▸ found⟩
    · rintro ⟨found, same⟩
      exact ⟨found.trans same.symm, found⟩
  · intro request untrusted
    simp [trustedProxyMiddleware, untrusted]

namespace Sample

/-- The network of the proxies, 10.0.0.0/8. -/
def prefixes : List Network := [.v4 0x0a000000#32 8]

/-- A request through the proxy 10.0.0.1, which appended the address 203.0.113.9. -/
def request (client : Option String) : Request :=
  { remoteAddr := octets "10.0.0.1:4000"
    forwardedFor :=
      let appended := [44].intercalate [octets " 203.0.113.9"]
      match client with
      | none => [appended]
      | some client => [octets client ++ 44 :: appended]
    forwardedProto := [], forwardedHost := [] }

theorem forwards : (client : Option String) →
    Forwards (client.map octets) [octets " 203.0.113.9"] (request client).forwardedFor
  | none => forwards_own_line (by simp) (by decide) none
  | some client => forwards_same_line (by simp) (by decide) (octets client)

end Sample

/-- A client that writes an address is limited under 203.0.113.9, and one that writes anything else
under the address of the proxy. -/
theorem client_chooses_address :
    (trustedProxyMiddleware id Sample.prefixes (Sample.request (some "198.51.100.7"))).clientIP =
        .v4 0xcb007109#32 ∧
      (trustedProxyMiddleware id Sample.prefixes (Sample.request (some "unknown"))).clientIP =
        .v4 0x0a000001#32 ∧
      entryAddress (octets " 203.0.113.9") = some (.v4 0xcb007109#32) ∧
      addressInPrefixes (.v4 0xcb007109#32) Sample.prefixes = false ∧
      addressInPrefixes (.v4 0x0a000001#32) Sample.prefixes = true := by
  decide +kernel

/-- A client that writes addresses is limited under the same one as a client that writes nothing. -/
theorem client_address_same :
    (trustedProxyMiddleware id Sample.prefixes (Sample.request none)).clientIP =
      (trustedProxyMiddleware id Sample.prefixes (Sample.request (some "::1, 192.0.2.4"))).clientIP := by
  obtain ⟨address, _, same, _⟩ := (client_address_chosen_iff id Sample.prefixes).1
    (Sample.request none) (Sample.request (some "::1, 192.0.2.4")) _ _ _ rfl (by decide +kernel)
    (by decide +kernel) (by decide +kernel)
    ⟨octets " 203.0.113.9", List.mem_singleton_self _, .v4 0xcb007109#32, by decide +kernel,
      by decide +kernel⟩ (Sample.forwards _) (Sample.forwards _)
  exact (same.mpr (by decide +kernel)).1

end OneIssuer.TrustedProxy
