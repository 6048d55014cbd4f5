import Mathlib.Data.Bool.AllAny
import OneIssuer.Listing
import OneIssuer.Wire.Text

/-!
# User search

An administrator's search text is put in front of `%` and used as a LIKE pattern. A text of characters
that stand for themselves is then searched for as a prefix. The three characters of the pattern
language are not quoted: for every search text with one of them there is a user who is found and does
not start with the text.

Search texts are Go strings, any octets. The server takes a parameter only when it is UTF-8 without
NUL.

**What it does not establish.** Collations, and the order of the users found.
-/

set_option autoImplicit false

namespace OneIssuer

open Relational Wire
open OneIssuer.Pagination (Cursor)

/-! ## The search -/

/-- The parameter as a text, when the server takes it. -/
def parameter? (octets : Octets) : Option String := (text? octets).filter storable

/-- `Store.ListUsers`, on any search. -/
def Store.searchUsers (db : Db) (search : Octets) (cursor : Cursor) (limit : Int) :
    Except StoreError (List User) :=
  match parameter? search with
  | none => .error (.query "list users" ⟨.other "22021", "invalid byte sequence for encoding \"UTF8\""⟩)
  | some text => .ok (Store.listUsers db text cursor limit)

/-- `admin.Service.ListUsers`; `normalize` is `NormalizeSearchPrefix`. -/
def adminListUsers (normalize : Octets → Octets) (db : Db) (principal : Principal) (search : Octets)
    (cursor : Cursor) (limit : Int) : Except ListError (List User) :=
  if !principal.isAdmin then .error .forbidden
  else if 320 < (normalize search).length then .error .invalidFilter
  else
    match Store.searchUsers db (normalize search) cursor (Pagination.limit limit + 1) with
    | .error _ => .error .queryFailed
    | .ok users => .ok users

theorem parameter?_octets {text : String} :
    parameter? (octets text) = if storable text then some text else none := by
  rw [parameter?, text?_eq_some.mpr rfl, Option.filter_some]

/-! ## Patterns -/

/-- A character that stands for itself in a pattern. -/
def isPlain (c : Char) : Bool := c != '%' && c != '_' && c != '\\'

theorem isPlain_iff {c : Char} : isPlain c ↔ c ≠ '%' ∧ c ≠ '_' ∧ c ≠ '\\' := by
  simp [isPlain, and_assoc]

theorem anySuffix_of_self {p : List Char → Bool} {text : List Char} (holds : p text) :
    anySuffix p text := by
  cases text with
  | nil => exact holds
  | cons c text => simp [anySuffix, holds]

theorem anySuffix_nil {text : List Char} : anySuffix (like []) text := by
  induction text with
  | nil => rfl
  | cons c text ih => simp [anySuffix, ih]

/-- A pattern of plain characters in front of `%` matches the texts that start with them. -/
theorem like_plain_iff {search text : List Char} (plain : ∀ c ∈ search, isPlain c) :
    like (search ++ ['%']) text ↔ search <+: text := by
  induction search generalizing text with
  | nil => exact iff_of_true anySuffix_nil List.nil_prefix
  | cons c search ih =>
    obtain ⟨isFirst, others⟩ := List.forall_mem_cons.mp plain
    obtain ⟨notAny, notOne, notQuote⟩ := isPlain_iff.mp isFirst
    cases text with
    | nil =>
      rw [List.cons_append, like.eq_6 _ _ notAny]
      simp
    | cons d text =>
      rw [List.cons_append, like.eq_5 _ _ _ _ notAny notOne fun _ _ isQuote => absurd isQuote notQuote,
        Bool.and_eq_true, beq_iff_eq, ih others, List.cons_prefix_cons]

/-! ## Texts that a pattern finds -/

/-- A text that a pattern matches. -/
def instanceOf : List Char → List Char
  | [] => []
  | '%' :: pattern => instanceOf pattern
  | '_' :: pattern => 'x' :: instanceOf pattern
  | '\\' :: c :: pattern => c :: instanceOf pattern
  | c :: pattern => c :: instanceOf pattern

theorem like_instanceOf (pattern : List Char) : like pattern (instanceOf pattern) := by
  fun_induction instanceOf pattern with
  | case1 => rfl
  | case2 pattern ih => exact anySuffix_of_self ih
  | case3 pattern ih => exact ih
  | case4 c pattern ih => rw [like.eq_4, beq_self_eq_true, Bool.true_and, ih]
  | case5 c pattern notAny notOne notQuote ih =>
    rw [like.eq_5 _ _ _ _ notAny notOne notQuote, beq_self_eq_true, Bool.true_and, ih]

/-- It is no longer than the search. -/
theorem length_instanceOf (search : List Char) :
    (instanceOf (search ++ ['%'])).length ≤ search.length := by
  fun_induction instanceOf search with
  | case1 => decide
  | case2 search ih =>
    have shorter : (instanceOf (search ++ ['%'])).length ≤ search.length := ih
    exact shorter.trans (Nat.le_succ _)
  | case3 search ih => exact Nat.succ_le_succ ih
  | case4 c search ih => exact (Nat.succ_le_succ ih).trans (Nat.le_succ _)
  | case5 c search notAny notOne notQuote ih =>
    cases search with
    | nil =>
      by_cases isQuote : c = '\\'
      · rw [isQuote]
        decide
      · rw [List.cons_append, instanceOf.eq_5 _ _ notAny notOne fun _ _ same => absurd same isQuote]
        exact Nat.succ_le_succ ih
    | cons d search =>
      have notQuoted : c ≠ '\\' := fun isQuote => notQuote d search isQuote rfl
      rw [List.cons_append, instanceOf.eq_5 _ _ notAny notOne fun _ _ same => absurd same notQuoted]
      exact Nat.succ_le_succ ih

/-- A search with a character of the pattern language finds a text that does not start with it. -/
theorem exists_stray {search : List Char} (special : ∃ c ∈ search, isPlain c = false) :
    ∃ text, like (search ++ ['%']) text ∧ ¬ search <+: text ∧ text ≠ [] ∧
      text.length ≤ search.length := by
  induction search with
  | nil => simp at special
  | cons c search ih =>
    by_cases plain : isPlain c
    · obtain ⟨notAny, notOne, notQuote⟩ := isPlain_iff.mp plain
      have later : ∃ c ∈ search, isPlain c = false := by simpa [plain] using special
      obtain ⟨text, found, strays, -, short⟩ := ih later
      refine ⟨c :: text, ?_, ?_, nofun, Nat.succ_le_succ short⟩
      · rw [List.cons_append,
          like.eq_5 _ _ _ _ notAny notOne fun _ _ isQuote => absurd isQuote notQuote,
          beq_self_eq_true, Bool.true_and, found]
      · rw [List.cons_prefix_cons]
        exact fun starts => strays starts.2
    · have matched := like_instanceOf (search ++ ['%'])
      have short := length_instanceOf search
      by_cases isAny : c = '%'
      · subst isAny
        refine ⟨'x' :: instanceOf (search ++ ['%']), ?_, ?_, nofun, Nat.succ_le_succ short⟩
        · exact Bool.or_eq_true_iff.mpr (.inr (anySuffix_of_self matched))
        · rw [List.cons_prefix_cons]
          exact fun starts => absurd starts.1 (by decide)
      · by_cases isOne : c = '_'
        · subst isOne
          refine ⟨'x' :: instanceOf (search ++ ['%']), matched, ?_, nofun, Nat.succ_le_succ short⟩
          rw [List.cons_prefix_cons]
          exact fun starts => absurd starts.1 (by decide)
        · obtain rfl : c = '\\' := by
            by_contra notQuote
            exact plain (isPlain_iff.mpr ⟨isAny, isOne, notQuote⟩)
          refine ⟨instanceOf ('\\' :: (search ++ ['%'])), like_instanceOf _, ?_, ?_,
            length_instanceOf ('\\' :: search)⟩
          · -- the quoting character is not part of the text
            cases search with
            | nil => decide
            | cons d search =>
              intro starts
              have longer := starts.length_le
              have rest := length_instanceOf search
              have isText : instanceOf ('\\' :: (d :: search ++ ['%'])) =
                  d :: instanceOf (search ++ ['%']) := rfl
              rw [isText] at longer
              simp only [List.length_cons] at longer
              omega
          · cases search with
            | nil => nofun
            | cons d search => nofun

/-! ## Literal search -/

/-- A name of the user starts with the search. -/
def startsWith (search : Octets) (row : User) : Bool :=
  search.isPrefixOf (octets row.usernameNormalized) || search.isPrefixOf (octets row.emailNormalized)

/-- In every database and on every page the search answers, in keyset order, with exactly the users
that start with it. -/
def SearchesPrefixes (normalize : Octets → Octets) (raw : Octets) : Prop :=
  ∀ (db : Db) (principal : Principal) (cursor : Cursor) (limit : Int), db.Sound → principal.isAdmin →
    adminListUsers normalize db principal raw cursor limit =
      .ok (Store.listRows (fun row => ⟨row.createdAt, row.id⟩)
        (db.users.filter (startsWith (normalize raw))) cursor (Pagination.limit limit + 1))

/-- The octets are a text that the server takes and that stands for itself in a pattern. -/
def PlainSearch (search : Octets) : Prop :=
  ∃ text, text? search = some text ∧ ∀ c ∈ text.toList, c ∉ ['\x00', '%', '_', '\\']

theorem startsWith_octets {text : String} {row : User} :
    startsWith (octets text) row ↔ text.toList <+: row.usernameNormalized.toList ∨
      text.toList <+: row.emailNormalized.toList := by
  rw [startsWith, Bool.or_eq_true, List.isPrefixOf_iff_prefix, List.isPrefixOf_iff_prefix,
    octets_prefix_iff, octets_prefix_iff]

theorem matchesSearch_iff {text : String} (nonempty : text ≠ "") {row : User} :
    Store.matchesSearch text row ↔ like (text.toList ++ ['%']) row.usernameNormalized.toList ∨
      like (text.toList ++ ['%']) row.emailNormalized.toList := by
  simp [Store.matchesSearch, nonempty]

/-- A plain search is a prefix search. -/
theorem matchesSearch_plain {text : String} (nonempty : text ≠ "")
    (plain : ∀ c ∈ text.toList, isPlain c) :
    Store.matchesSearch text = startsWith (octets text) := by
  funext row
  rw [Bool.eq_iff_iff, matchesSearch_iff nonempty, startsWith_octets, like_plain_iff plain,
    like_plain_iff plain]

/-- A user with the two normalised names. -/
def userNamed (role : Role) (username email : String) : User :=
  { id := 1, subject := "sub_AAAAAAAAAAAAAAAAAAAA", username := "x", usernameNormalized := username
    displayName := "x", email := "x@y", emailNormalized := email, emailVerified := false
    status := .active, role := role, createdAt := 1, updatedAt := 1, lastLoginAt := none
    version := 1 }

theorem userNamed_stored {role : Role} {username email : String}
    (isUsername : lengthBetween username 1 256) (isEmail : lengthBetween email 3 320) :
    checkViolation (userNamed role username email).checks = none := by
  have others : lengthBetween "x" 1 256 ∧ lengthBetween "x@y" 3 320 ∧ lengthBetween "x" 1 128 ∧
      lengthBetween "sub_AAAAAAAAAAAAAAAAAAAA" 20 255 := by
    decide
  obtain ⟨display, address, name, subject⟩ := others
  rw [checkViolation_eq_none]
  simp [User.checks, userNamed, isUsername, isEmail, display, address, name, subject]

/-- A text with a character of the pattern language is no beginning of a text without. -/
theorem not_start_of_plain {search text : List Char} (special : ∃ c ∈ search, isPlain c = false)
    (plain : ∀ c ∈ text, isPlain c) : ¬ search <+: text := by
  intro starts
  obtain ⟨c, member, notPlain⟩ := special
  exact absurd (plain c (starts.subset member)) (by simp [notPlain])

/-- For every search with a character of the pattern language there is a user whom it finds and who
does not start with it. -/
theorem exists_stray_user {search : String} (short : search.length ≤ 320)
    (special : ∃ c ∈ search.toList, isPlain c = false) :
    ∃ row : User, checkViolation row.checks = none ∧ Store.matchesSearch search row ∧
      startsWith (octets search) row = false := by
  have nonempty : search ≠ "" := by
    rintro rfl
    simp at special
  obtain ⟨text, found, strays, isText, shorter⟩ := exists_stray special
  have positive := List.length_pos_iff.mpr isText
  have bound : text.length ≤ 320 := shorter.trans short
  -- an address has three characters at least
  by_cases long : 3 ≤ text.length
  · refine ⟨userNamed .user "x" (String.ofList text), userNamed_stored (by decide) ?_,
      (matchesSearch_iff nonempty).mpr (.inr ?_), ?_⟩
    · simp [lengthBetween, long, bound]
    · rw [userNamed, String.toList_ofList, found]
    · rw [Bool.eq_false_iff, Ne, startsWith_octets]
      show ¬ (search.toList <+: "x".toList ∨ search.toList <+: (String.ofList text).toList)
      rw [String.toList_ofList (l := text)]
      exact not_or.mpr ⟨not_start_of_plain special (List.all_eq_true.mp (by decide)), strays⟩
  · refine ⟨userNamed .user (String.ofList text) "x@y", userNamed_stored ?_ (by decide),
      (matchesSearch_iff nonempty).mpr (.inl ?_), ?_⟩
    · simp only [lengthBetween, String.length_ofList, Bool.and_eq_true, decide_eq_true_eq]
      omega
    · rw [userNamed, String.toList_ofList, found]
    · rw [Bool.eq_false_iff, Ne, startsWith_octets]
      show ¬ (search.toList <+: (String.ofList text).toList ∨ search.toList <+: "x@y".toList)
      rw [String.toList_ofList]
      exact not_or.mpr ⟨strays, not_start_of_plain special (List.all_eq_true.mp (by decide))⟩

theorem sound_of_user {row : User} (stored : checkViolation row.checks = none) :
    ({ Db.empty .utc with users := [row] } : Db).Sound :=
  { Db.sound_empty .utc with
    users := ⟨List.nodup_singleton _, List.forall_mem_singleton.mpr stored⟩ }

theorem adminListUsers_ok {normalize : Octets → Octets} {raw : Octets} {text : String}
    (isText : normalize raw = octets text) (short : (normalize raw).length ≤ 320)
    (taken : storable text) {principal : Principal} (admin : principal.isAdmin) (db : Db)
    (cursor : Cursor) (limit : Int) :
    adminListUsers normalize db principal raw cursor limit =
      .ok (Store.listUsers db text cursor (Pagination.limit limit + 1)) := by
  rw [adminListUsers, admin, if_neg (by decide), if_neg (by omega), isText, Store.searchUsers,
    parameter?_octets, if_pos taken]

/-- A search that the server does not take fails in every database. -/
theorem adminListUsers_refused {normalize : Octets → Octets} {raw : Octets}
    (refused : parameter? (normalize raw) = none) (db : Db) (principal : Principal) (cursor : Cursor)
    (limit : Int) (users : List User) :
    adminListUsers normalize db principal raw cursor limit ≠ .ok users := by
  rw [adminListUsers, Store.searchUsers, refused]
  split_ifs <;> nofun

/-- A search that finds a user who does not start with it is no prefix search. -/
theorem not_searchesPrefixes {normalize : Octets → Octets} {raw : Octets} {text : String}
    (isText : normalize raw = octets text) (short : (normalize raw).length ≤ 320)
    (taken : storable text) {row : User} (stored : checkViolation row.checks = none)
    (found : Store.matchesSearch text row) (strays : startsWith (octets text) row = false) :
    ¬ SearchesPrefixes normalize raw := by
  intro literal
  have answer := literal { Db.empty .utc with users := [row] } ⟨userNamed .admin "x" "x@y", 1⟩ ⟨0, 0⟩ 1
    (sound_of_user stored) (by decide)
  rw [adminListUsers_ok isText short taken (by decide), isText, Store.listUsers] at answer
  simp only [List.filter_singleton, found, strays] at answer
  have pages : [row] = [] := Except.ok.inj answer
  exact absurd pages (List.cons_ne_nil _ _)

/-- The search is a prefix search exactly for the texts without NUL and without the three characters
of the pattern language. -/
theorem user_search_literal_iff (normalize : Octets → Octets) (raw : Octets)
    (nonempty : normalize raw ≠ []) (short : (normalize raw).length ≤ 320) :
    SearchesPrefixes normalize raw ↔ PlainSearch (normalize raw) := by
  constructor
  · intro literal
    cases found : parameter? (normalize raw) with
    | none =>
      have answer := literal (Db.empty .utc) ⟨userNamed .admin "x" "x@y", 1⟩ ⟨0, 0⟩ 1
        (Db.sound_empty _) (by decide)
      exact absurd answer (adminListUsers_refused found _ _ _ _ _)
    | some text =>
      obtain ⟨isText, taken⟩ := Option.filter_eq_some_iff.mp found
      refine ⟨text, isText, ?_⟩
      have isText := text?_eq_some.mp isText
      have bound : text.length ≤ 320 := by
        rw [isText] at short
        exact (length_le_octets text).trans short
      have isTaken (c : Char) (member : c ∈ text.toList) : c ≠ '\x00' := by
        rintro rfl
        simp [storable, member] at taken
      have isPlain (c : Char) (member : c ∈ text.toList) : isPlain c := by
        by_contra special
        obtain ⟨row, stored, finds, strays⟩ :=
          exists_stray_user bound ⟨c, member, eq_false_of_ne_true special⟩
        exact not_searchesPrefixes isText short taken stored finds strays literal
      intro c member
      simpa [isTaken c member] using isPlain_iff.mp (isPlain c member)
  · rintro ⟨text, found, plain⟩ db principal cursor limit - admin
    have isText := text?_eq_some.mp found
    have notEmpty : text ≠ "" := by
      rintro rfl
      exact nonempty isText
    have apart (c : Char) (member : c ∈ text.toList) : c ≠ '\x00' ∧ c ≠ '%' ∧ c ≠ '_' ∧ c ≠ '\\' := by
      simpa using plain c member
    have taken : storable text := by
      rw [storable, Bool.not_eq_true', List.contains_eq_mem, decide_eq_false_iff_not]
      exact fun member => (apart _ member).1 rfl
    have isPlain (c : Char) (member : c ∈ text.toList) : isPlain c :=
      isPlain_iff.mpr (apart c member).2
    rw [adminListUsers_ok isText short taken admin, Store.listUsers, isText,
      matchesSearch_plain notEmpty isPlain]

theorem user_search_ann : SearchesPrefixes id (octets "ann") :=
  (user_search_literal_iff id (octets "ann") (by decide) (by decide)).mpr
    ⟨"ann", text?_eq_some.mpr rfl, List.all_iff_forall_prop.mp (by decide)⟩

/-- A search for `a_b` finds the user `axb`, and a search with a NUL fails. -/
theorem underscore_finds_other :
    let user := userNamed .user "axb" "ann@example.org"
    let db : Db := { Db.empty .utc with users := [user] }
    let admin : Principal := ⟨userNamed .admin "root" "root@example.org", 1⟩
    adminListUsers id db admin (octets "a_b") ⟨0, 0⟩ 20 = .ok [user] ∧
      startsWith (octets "a_b") user = false ∧
      adminListUsers id db admin (octets "a\x00") ⟨0, 0⟩ 20 = .error .queryFailed := by
  decide +kernel

end OneIssuer
