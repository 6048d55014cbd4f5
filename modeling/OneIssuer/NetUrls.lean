import OneIssuer.Clients
import OneIssuer.Wire.Url

/-!
# The URL parser of the registry

The policies for registered URIs are stated over a parser. Here it is the one of `net/url`, with
`net.ParseIP` for loopback addresses. Its host and path are decoded and need not be UTF-8; the policies
compare them with texts, so any other octets are replaced by one character that is in none of these.
-/

set_option autoImplicit false

namespace OneIssuer

open Wire

/-- The text of octets that a policy compares. -/
def lossyText (octets : Octets) : String := (text? octets).getD "�"

/-- `net.ParseIP(hostname).IsLoopback()`; an address with a zone is none. -/
def isLoopback (hostname : Octets) : Bool :=
  match parseAddr hostname with
  | none | some (.v6 _ (_ :: _)) => false
  | some address =>
    match address.unmap with
    | .v4 bits => bits >>> 24 == 127#32
    | .v6 bits _ => bits == 1#128
    | .invalid => false

/-- What the policies read of a URL. -/
def netURL (url : Url) : NetURL :=
  { scheme := lossyText url.scheme, host := lossyText url.host, hostname := lossyText url.hostname
    hasUser := url.user.isSome, fragment := lossyText url.fragment
    opaquePart := lossyText url.opaquePart }

/-- `url.Parse` and `net.ParseIP`. -/
def netURLs : URLParser where
  parse raw := (Url.parse (octets raw)).map netURL
  loopback hostname := isLoopback (octets hostname)

/-! ## Texts -/

theorem lossyText_eq {bytes : Octets} {text : String} (ascii : text ≠ "�") :
    lossyText bytes = text ↔ bytes = octets text := by
  rw [lossyText, ← text?_eq_some]
  cases text? bytes with
  | none => simpa using ascii.symm
  | some other => simp

/-! ## Accepted URIs -/

/-- What the policy for registered URIs asks of the parsed URL. -/
structure Registrable (allowLoopback : Bool) (url : Url) : Prop where
  host : url.host ≠ []
  user : url.user = none
  fragment : url.fragment = []
  opaquePart : url.opaquePart = []
  scheme : url.scheme = octets "https" ∨ url.scheme = octets "http" ∧ allowLoopback ∧
    ((lossyText url.hostname).toList.map foldCase = "localhost".toList ∨
      isLoopback (octets (lossyText url.hostname)))

/-- The policy on the text itself. -/
structure PlainText (raw : String) : Prop where
  nonempty : raw ≠ ""
  short : raw.utf8ByteSize ≤ 2048
  trimmed : Token.isTrimmed raw
  noWildcard : '*' ∉ raw.toList
  noBreak : ∀ c ∈ raw.toList, c ≠ '\r' ∧ c ≠ '\n' ∧ c ≠ '\t'

theorem plainText_iff {raw : String} :
    PlainText raw ↔ ¬(raw == "" || decide (raw.utf8ByteSize > 2048) || !Token.isTrimmed raw ||
      raw.toList.contains '*' ||
      raw.toList.any fun c => c == '\r' || c == '\n' || c == '\t') = true := by
  simp only [Bool.or_eq_true, beq_iff_eq, decide_eq_true_eq, Bool.not_eq_true', not_or, gt_iff_lt,
    Nat.not_lt, Bool.not_eq_false, List.contains_eq_mem, List.any_eq_true, not_exists, not_and]
  constructor
  · intro plain
    exact ⟨⟨⟨⟨plain.nonempty, plain.short⟩, plain.trimmed⟩, plain.noWildcard⟩, fun c member =>
      ⟨⟨(plain.noBreak c member).1, (plain.noBreak c member).2.1⟩, (plain.noBreak c member).2.2⟩⟩
  · rintro ⟨⟨⟨⟨nonempty, short⟩, trimmed⟩, noWildcard⟩, noBreak⟩
    exact ⟨nonempty, short, trimmed, noWildcard, fun c member =>
      ⟨(noBreak c member).1.1, (noBreak c member).1.2, (noBreak c member).2⟩⟩

theorem validateURI_iff {allowLoopback : Bool} {raw : String} :
    validateURI netURLs allowLoopback raw ↔
      PlainText raw ∧ ∃ url, Url.parse (octets raw) = some url ∧ Registrable allowLoopback url := by
  have empty : ∀ bytes : Octets, lossyText bytes = "" ↔ bytes = [] := fun bytes =>
    lossyText_eq (by decide)
  have secure : ∀ bytes : Octets, lossyText bytes = "https" ↔ bytes = octets "https" := fun bytes =>
    lossyText_eq (by decide)
  have insecure : ∀ bytes : Octets, lossyText bytes = "http" ↔ bytes = octets "http" := fun bytes =>
    lossyText_eq (by decide)
  rw [validateURI]
  split
  · rename_i refused
    refine iff_of_false (by simp) ?_
    rintro ⟨plain, _⟩
    exact plainText_iff.mp plain refused
  · rename_i allowed
    rw [and_iff_right (plainText_iff.mpr allowed)]
    cases isUrl : Url.parse (octets raw) with
    | none => simp [netURLs, isUrl]
    | some url =>
      simp only [netURLs, isUrl, Option.map_some, netURL, Bool.or_eq_true, beq_iff_eq, bne_iff_ne,
        empty, secure, insecure, Option.some.injEq, exists_eq_left', ne_eq]
      constructor
      · intro accepted
        split at accepted
        · cases accepted
        · rename_i isUrl
          simp only [not_or, not_not] at isUrl
          obtain ⟨⟨⟨⟨_, hosted⟩, anonymous⟩, whole⟩, transparent⟩ := isUrl
          refine ⟨hosted, by simpa using anonymous, whole, transparent, ?_⟩
          split at accepted
          · rename_i isSecure
            exact .inl isSecure
          · split at accepted
            · cases accepted
            · rename_i isInsecure
              simp only [Bool.not_eq_true', not_or, not_not, Bool.not_eq_false] at isInsecure
              exact .inr ⟨isInsecure.1, isInsecure.2, by simpa using accepted⟩
      · intro registrable
        rw [if_neg]
        · rcases registrable.scheme with isSecure | ⟨isInsecure, isAllowed, onLoopback⟩
          · rw [if_pos isSecure]
          · rw [if_neg (by rw [isInsecure]; decide), if_neg (by simp [isInsecure, isAllowed])]
            simpa using onLoopback
        · simp only [not_or, not_not]
          refine ⟨⟨⟨⟨?_, registrable.host⟩, by simp [registrable.user]⟩, registrable.fragment⟩,
            registrable.opaquePart⟩
          rcases registrable.scheme with isSecure | ⟨isInsecure, _⟩
          · rw [isSecure]
            decide
          · rw [isInsecure]
            decide

end OneIssuer
