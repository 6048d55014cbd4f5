import OneIssuer.Pagination
import OneIssuer.Store.Steps
import OneIssuer.Store.Administration

/-!
# The administrative and session lists

The five lists of the API, from the request to the page, and a reader that follows `next_cursor`
until it is empty. A service asks its store for one row more than the page holds, and the handler
takes that row as the sign that there is a next page; but the store cuts the number it is asked for
to 100, so at a page size of 100 the sign never comes. `reads_all_iff` says exactly when a list can
be read completely.

Folding, normalising and trimming a search text is a library matter (`normalize`).

**What it does not establish.** A list that changes while it is read: every page is taken from one
state.
-/

set_option autoImplicit false

namespace OneIssuer

open Relational
open OneIssuer.Pagination (Cursor CursorError)

/-! ## Positions -/

/-- The order of the lists, `(time, id)`. -/
def Pagination.Cursor.key (cursor : Cursor) : Time ×ₗ Uuid := toLex (cursor.time, cursor.id)

/-- The bound of the SQL comparison: `cursorTimestamp` makes a zero time NULL. -/
def cursorMark (cursor : Cursor) : Option (Time ×ₗ Uuid) :=
  if Time.isZero cursor.time then none else some (toLex (timestamp cursor.time, cursor.id))

/-- `postgresPageLimit`. -/
def postgresPageLimit (limit : Int) : Int := Pagination.limit limit

/-! ## The store -/

/-- PostgreSQL can store the text: it refuses a NUL character with SQLSTATE 22021. -/
def storable (text : String) : Bool := !text.toList.contains '\x00'

/-- `session.Summary`. -/
structure Summary where
  id : Uuid
  userID : Uuid
  username : String
  userStatus : Option Status
  createdAt : Time
  lastSeenAt : Time
  authenticatedAt : Time
  expiresAt : Time
  idleExpiresAt : Time
  revokedAt : Option Time
  revokeReason : Option RevokeReason
  ipPrefix : String
  current : Bool
  deriving DecidableEq, Repr

/-- A session as a list shows it, without its user. -/
def LoginSession.summary (row : LoginSession) : Summary :=
  { id := row.id, userID := row.userID, username := "", userStatus := none
    createdAt := row.createdAt, lastSeenAt := row.lastSeenAt
    authenticatedAt := row.authenticatedAt, expiresAt := row.expiresAt
    idleExpiresAt := row.idleExpiresAt, revokedAt := row.revokedAt
    revokeReason := row.revokeReason, ipPrefix := valueString row.ipPrefix, current := false }

/-- An audit row as the list shows it. -/
def AuditEvent.event (row : AuditEvent) : Audit.Event :=
  { id := row.id, type := row.eventType, result := row.result, actorUserID := row.actorUserID
    targetType := row.targetType, targetID := row.targetID
    requestID := valueString row.requestID, changedFields := row.changedFields
    occurredAt := row.occurredAt }

namespace Store

variable (db : Db)

/-- What the five list queries share: `… < cursor ORDER BY time DESC, id DESC LIMIT …`. -/
def listRows {ρ : Type} (position : ρ → Cursor) (rows : List ρ) (cursor : Cursor) (limit : Int) :
    List ρ :=
  keysetPage (fun row => (position row).key) rows (cursorMark cursor) (postgresPageLimit limit).toNat

/-- A store may rewrite the rows of a page when that keeps their positions. -/
theorem listRows_map {ρ σ : Type} (rewrite : ρ → σ) {position : ρ → Cursor} (shown : σ → Cursor)
    (same : ∀ row, shown (rewrite row) = position row) (rows : List ρ) (cursor : Cursor)
    (limit : Int) :
    (listRows position rows cursor limit).map rewrite =
      listRows shown (rows.map rewrite) cursor limit := by
  have keys (row : ρ) : (fun item => (shown item).key) (rewrite row) = (position row).key :=
    congrArg Cursor.key (same row)
  refine keysetPage_map ?_ _ _
  exact keys

/-- The `WHERE` of `ListUsers` on the search text. -/
def matchesSearch (search : String) (row : User) : Bool :=
  search == "" || like (search.toList ++ ['%']) row.usernameNormalized.toList ||
    like (search.toList ++ ['%']) row.emailNormalized.toList

/-- `Store.ListUsers`. -/
def listUsers (search : String) (cursor : Cursor) (limit : Int) : List User :=
  listRows (fun row => ⟨row.createdAt, row.id⟩) (db.users.filter (matchesSearch search)) cursor limit

/-- `Store.ListClients`. -/
def listClients (cursor : Cursor) (limit : Int) : List Client :=
  (listRows (fun row => ⟨row.createdAt, row.id⟩) db.clients cursor limit).map db.clientOf

/-- `login_sessions JOIN users`. -/
def sessionsWithUsers : List (LoginSession × User) :=
  db.loginSessions.flatMap fun session =>
    (db.users.filter (·.id == session.userID)).map fun user => (session, user)

/-- `Store.ListManagedSessions`. -/
def listManagedSessions (cursor : Cursor) (limit : Int) : List Summary :=
  (listRows (fun row => ⟨row.1.createdAt, row.1.id⟩) (sessionsWithUsers db) cursor limit).map
    fun row => { row.1.summary with username := row.2.username, userStatus := some row.2.status }

/-- `Store.ListUserSessions`. -/
def listUserSessions (userID : Uuid) (cursor : Cursor) (limit : Int) : List Summary :=
  (listRows (fun row => ⟨row.createdAt, row.id⟩) (db.loginSessions.filter (·.userID == userID))
    cursor limit).map LoginSession.summary

/-- `Store.ListAuditEvents`; no event type is the empty filter. -/
def listAuditEvents (eventType : Option Audit.EventType) (cursor : Cursor) (limit : Int) :
    List Audit.Event :=
  (listRows (fun row => ⟨row.occurredAt, row.id⟩)
    (db.auditEvents.filter fun row => eventType.all (row.eventType == ·)) cursor limit).map
    AuditEvent.event

end Store

/-! ## Services -/

/-- `session.Principal`, as far as the lists look at it. -/
structure Principal where
  user : User
  sessionID : Uuid

/-- The errors of a list request. -/
inductive ListError where
  | invalidCursor
  | forbidden
  | invalidFilter
  /-- `wrapError` around a driver error. -/
  | queryFailed
  deriving DecidableEq, Repr

/-- `admin.Service.Authorize` returns no error. -/
def Principal.isAdmin (principal : Principal) : Bool :=
  principal.user.status == .active && principal.user.role == .admin

/-- The five lists with their filters. An event type that is not of the enumeration is refused before
the store is reached. -/
inductive Listing where
  | users (search : String)
  | clients
  | managedSessions
  | mySessions
  | audit (eventType : Option Audit.EventType)

namespace Listing

/-- What a list shows. -/
def Item : Listing → Type
  | users _ => User
  | clients => Client
  | managedSessions => Summary
  | mySessions => Summary
  | audit _ => Audit.Event

/-- Where an item stands. -/
def position : (list : Listing) → list.Item → Cursor
  | users _, (item : User) => ⟨item.createdAt, item.id⟩
  | clients, (item : Client) => ⟨item.createdAt, item.id⟩
  | managedSessions, (item : Summary) => ⟨item.createdAt, item.id⟩
  | mySessions, (item : Summary) => ⟨item.createdAt, item.id⟩
  | audit _, (item : Audit.Event) => ⟨item.occurredAt, item.id⟩

variable (normalize : String → String) (db : Db) (principal : Principal)

/-- `admin.Service.ListUsers`, `ListClients`, `ListSessions`, `ListAudit` and
`session.Service.ListMine`. The server refuses a search text with a NUL. -/
def fetch : (list : Listing) → Cursor → Int → Except ListError (List list.Item)
  | users search, cursor, limit =>
    if !principal.isAdmin then .error .forbidden
    else if 320 < (normalize search).utf8ByteSize then .error .invalidFilter
    else if !storable (normalize search) then .error .queryFailed
    else .ok (Store.listUsers db (normalize search) cursor (Pagination.limit limit + 1))
  | clients, cursor, limit =>
    if !principal.isAdmin then .error .forbidden
    else .ok (Store.listClients db cursor (Pagination.limit limit + 1))
  | managedSessions, cursor, limit =>
    if !principal.isAdmin then .error .forbidden
    else .ok (Store.listManagedSessions db cursor (Pagination.limit limit + 1))
  | mySessions, cursor, limit =>
    .ok ((Store.listUserSessions db principal.user.id cursor (Pagination.limit limit + 1)).map
      fun (item : Summary) => { item with current := item.id == principal.sessionID })
  | audit eventType, cursor, limit =>
    if !principal.isAdmin then .error .forbidden
    else .ok (Store.listAuditEvents db eventType cursor (Pagination.limit limit + 1))

end Listing

/-! ## Handlers -/

/-- The query of a list request; a limit that is no number is refused. -/
structure PageRequest where
  cursor : String
  limit : Option Int

/-- `parsePage`. -/
def parsePage (request : PageRequest) : Except ListError (Cursor × Int) :=
  match Pagination.decode request.cursor with
  | .error _ => .error .invalidCursor
  | .ok cursor =>
    match request.limit with
    | none => .ok (cursor, 20)
    | some value =>
      if value < 1 || value > 100 then .error .invalidCursor else .ok (cursor, value)

/-- `nextCursor`. -/
def nextCursor {ρ : Type} (items : List ρ) (limit : Int) (position : ρ → Cursor) :
    List ρ × String :=
  if items.length ≤ limit then (items, "")
  else
    let items := items.take limit.toNat
    (items, (items.getLast?.map fun item => Pagination.encode (position item)).getD "")

namespace Listing

variable (normalize : String → String) (db : Db) (principal : Principal) (list : Listing)

/-- The handler of a list, for an authenticated request: the items and `next_cursor`. -/
def handle (request : PageRequest) : Except ListError (List list.Item × String) :=
  match parsePage request with
  | .error failure => .error failure
  | .ok (cursor, limit) =>
    match list.fetch normalize db principal cursor limit with
    | .error failure => .error failure
    | .ok items => .ok (nextCursor items limit list.position)

/-- A page as its reader sees it: an empty `next_cursor` ends the list. -/
def pageAt (limit : Int) (raw : String) : Option (List list.Item × Option String) :=
  match list.handle normalize db principal ⟨raw, some limit⟩ with
  | .error _ => none
  | .ok (items, next) => some (items, if next == "" then none else some next)

/-! ## What a list is to show -/

/-- The rows of a list, in the order of the table. -/
def matching : (list : Listing) → List list.Item
  | users search => db.users.filter (Store.matchesSearch (normalize search))
  | clients => db.clients.map db.clientOf
  | managedSessions => (Store.sessionsWithUsers db).map fun row =>
    { row.1.summary with username := row.2.username, userStatus := some row.2.status }
  | mySessions => (db.loginSessions.filter (·.userID == principal.user.id)).map fun row =>
    { row.summary with current := row.id == principal.sessionID }
  | audit eventType =>
    (db.auditEvents.filter fun row => eventType.all (row.eventType == ·)).map AuditEvent.event

/-- The service and the server admit the request. -/
def Admits : Listing → Bool
  | users search =>
    principal.isAdmin && (normalize search).utf8ByteSize ≤ 320 && storable (normalize search)
  | mySessions => true
  | _ => principal.isAdmin

/-- The rows of a list in the order they are read. -/
def ordered : List list.Item :=
  descending (fun item => (list.position item).key) (list.matching normalize db principal)

variable {normalize db principal list}

/-- One page of the store, for every list. -/
theorem fetch_admitted (admits : list.Admits normalize principal) (cursor : Cursor) (limit : Int) :
    list.fetch normalize db principal cursor limit =
      .ok (Store.listRows list.position (list.matching normalize db principal) cursor
        (Pagination.limit limit + 1)) := by
  cases list with
  | users search =>
    obtain ⟨⟨isAdmin, short⟩, isText⟩ :
        (principal.isAdmin ∧ (normalize search).utf8ByteSize ≤ 320) ∧ storable (normalize search) := by
      simpa [Admits] using admits
    rw [fetch, if_neg (by simp [isAdmin]), if_neg (by omega), if_neg (by simp [isText])]
    rfl
  | clients =>
    have isAdmin : principal.isAdmin := admits
    rw [fetch, if_neg (by simp [isAdmin])]
    exact congrArg Except.ok (Store.listRows_map _ clients.position (fun _ => rfl) _ _ _)
  | managedSessions =>
    have isAdmin : principal.isAdmin := admits
    rw [fetch, if_neg (by simp [isAdmin])]
    exact congrArg Except.ok (Store.listRows_map _ managedSessions.position (fun _ => rfl) _ _ _)
  | mySessions =>
    exact congrArg Except.ok (List.map_map.trans
      (Store.listRows_map _ mySessions.position (fun _ => rfl) _ _ _))
  | audit eventType =>
    have isAdmin : principal.isAdmin := admits
    rw [fetch, if_neg (by simp [isAdmin])]
    exact congrArg Except.ok
      (Store.listRows_map _ (audit eventType).position (fun _ => rfl) _ _ _)

theorem fetch_refused (refused : ¬ list.Admits normalize principal) (cursor : Cursor)
    (limit : Int) : ∃ failure, list.fetch normalize db principal cursor limit = .error failure := by
  cases list with
  | users search =>
    by_cases isAdmin : principal.isAdmin
    · by_cases long : 320 < (normalize search).utf8ByteSize
      · exact ⟨.invalidFilter, by rw [fetch, if_neg (by simp [isAdmin]), if_pos long]⟩
      · have notText : storable (normalize search) = false := by
          simpa [Admits, isAdmin, Nat.not_lt.mp long] using refused
        exact ⟨.queryFailed, by
          rw [fetch, if_neg (by simp [isAdmin]), if_neg long, if_pos (by simp [notText])]⟩
    · exact ⟨.forbidden, by rw [fetch, if_pos (by simpa using isAdmin)]⟩
  | mySessions => exact absurd rfl refused
  | clients => exact ⟨.forbidden, by rw [fetch, if_pos (by simpa [Admits] using refused)]⟩
  | managedSessions => exact ⟨.forbidden, by rw [fetch, if_pos (by simpa [Admits] using refused)]⟩
  | audit eventType => exact ⟨.forbidden, by rw [fetch, if_pos (by simpa [Admits] using refused)]⟩

/-! ## Pages of the ordered list -/

variable (normalize db principal list)

/-- The order of a list. -/
def key (item : list.Item) : Time ×ₗ Uuid := (list.position item).key

/-- What is left to read from a cursor on. -/
def selected (cursor : Cursor) : List list.Item :=
  belowMark list.key (cursorMark cursor) (list.ordered normalize db principal)

/-- The rows of a list have distinct positions. -/
def Distinct : Prop := ((list.matching normalize db principal).map list.position).Nodup

/-- The cursor of an item is accepted and stands for the rows after the item. -/
def Resumes (item : list.Item) : Prop :=
  ∃ cursor, Pagination.decode (Pagination.encode (list.position item)) = .ok cursor ∧
    ∀ other ∈ list.matching normalize db principal,
      (cursorMark cursor).all (fun bound => decide (list.key other < bound)) ↔
        list.key other < list.key item

/-- The item is the last one of a page, and not the last one of all. -/
def PageEnd {ρ : Type} (limit : Nat) (rows : List ρ) (item : ρ) : Prop :=
  ∃ front back, rows = front ++ item :: back ∧ back ≠ [] ∧ limit ∣ front.length + 1

variable {normalize db principal list}

theorem key_injective {a b : Cursor} (same : a.key = b.key) : a = b := by
  obtain ⟨sameTime, sameID⟩ : a.time = b.time ∧ a.id = b.id := Prod.mk.inj (toLex.injective same)
  cases a
  cases b
  rw [Cursor.mk.injEq]
  exact ⟨sameTime, sameID⟩

theorem Distinct.keys (distinct : list.Distinct normalize db principal) :
    ((list.matching normalize db principal).map list.key).Nodup := by
  have keyed : (list.matching normalize db principal).map list.key =
      ((list.matching normalize db principal).map list.position).map Cursor.key := by
    rw [List.map_map]
    rfl
  rw [keyed]
  exact List.Nodup.map (fun _ _ => key_injective) distinct

theorem Distinct.strict (distinct : list.Distinct normalize db principal) :
    (list.ordered normalize db principal).Pairwise fun a b => list.key b < list.key a :=
  descending_strict distinct.keys

theorem Distinct.nodup (distinct : list.Distinct normalize db principal) :
    (list.ordered normalize db principal).Nodup :=
  distinct.strict.imp fun below same => absurd (same ▸ below) (lt_irrefl _)

/-- The number of rows a service gets: one more than the page, but never more than 100. -/
theorem page_count {limit : Nat} (least : 1 ≤ limit) (most : limit ≤ 100) :
    (postgresPageLimit (Pagination.limit limit + 1)).toNat = min (limit + 1) 100 := by
  rw [Pagination.limit_of_valid (by omega) (by omega), postgresPageLimit, Pagination.limit]
  by_cases full : limit = 100
  · subst full
    decide
  · rw [if_neg (by omega), if_neg (by omega)]
    omega

section Pages

variable {limit : Nat} {raw : String} {cursor : Cursor}

/-- A page, cut from the ordered list. -/
theorem handle_decoded (least : 1 ≤ limit) (most : limit ≤ 100)
    (admits : list.Admits normalize principal) (distinct : list.Distinct normalize db principal)
    (decoded : Pagination.decode raw = .ok cursor) :
    list.handle normalize db principal ⟨raw, some limit⟩ =
      .ok (nextCursor ((list.selected normalize db principal cursor).take (min (limit + 1) 100))
        limit list.position) := by
  have parsed : parsePage ⟨raw, some (limit : Int)⟩ = .ok (cursor, (limit : Int)) := by
    have valid : ¬ ((limit : Int) < 1 ∨ (limit : Int) > 100) := by omega
    simp only [parsePage, decoded]
    rw [if_neg (by simpa using valid)]
  have rows : Store.listRows list.position (list.matching normalize db principal) cursor
      (Pagination.limit limit + 1) =
      (list.selected normalize db principal cursor).take (min (limit + 1) 100) := by
    rw [Store.listRows, keysetPage, page_count least most]
    exact congrArg (List.take _) (descending_belowMark distinct.keys _)
  simp only [handle, parsed, fetch_admitted admits, rows]

theorem pageAt_undecoded {failure : CursorError}
    (undecoded : Pagination.decode raw = .error failure) :
    list.pageAt normalize db principal limit raw = none := by
  simp only [pageAt, handle, parsePage, undecoded]

/-- A last page. -/
theorem pageAt_last (least : 1 ≤ limit) (most : limit ≤ 100)
    (admits : list.Admits normalize principal) (distinct : list.Distinct normalize db principal)
    (decoded : Pagination.decode raw = .ok cursor)
    (few : (list.selected normalize db principal cursor).length ≤ limit) :
    list.pageAt normalize db principal limit raw =
      some (list.selected normalize db principal cursor, none) := by
  have whole : (list.selected normalize db principal cursor).take (min (limit + 1) 100) =
      list.selected normalize db principal cursor := List.take_of_length_le (by omega)
  rw [pageAt, handle_decoded least most admits distinct decoded, whole, nextCursor,
    if_pos (by omega)]
  rfl

/-- At a page size of 100 every page is a last page. -/
theorem pageAt_full (admits : list.Admits normalize principal)
    (distinct : list.Distinct normalize db principal)
    (decoded : Pagination.decode raw = .ok cursor) :
    list.pageAt normalize db principal (100 : Nat) raw =
      some ((list.selected normalize db principal cursor).take 100, none) := by
  have short : ((list.selected normalize db principal cursor).take 100).length ≤ 100 :=
    List.length_take_le 100 _
  rw [pageAt, handle_decoded (by decide) (by decide) admits distinct decoded, nextCursor,
    if_pos (by exact_mod_cast short)]
  rfl

/-- A page with a successor. -/
theorem pageAt_more (most : limit < 100) (admits : list.Admits normalize principal)
    (distinct : list.Distinct normalize db principal)
    (decoded : Pagination.decode raw = .ok cursor) {front back : List list.Item} {item : list.Item}
    (isSelected : list.selected normalize db principal cursor = front ++ item :: back)
    (isLimit : front.length + 1 = limit) (more : back ≠ []) :
    list.pageAt normalize db principal limit raw =
      some (front ++ [item], some (Pagination.encode (list.position item))) := by
  obtain ⟨following, rest, rfl⟩ := List.exists_cons_of_ne_nil more
  have items : (front ++ item :: following :: rest).take (min (limit + 1) 100) =
      front ++ [item, following] := by
    rw [show min (limit + 1) 100 = front.length + 2 by omega, List.take_length_add_append]
    rfl
  have page : (front ++ [item, following]).take limit = front ++ [item] := by
    rw [← isLimit, List.take_length_add_append]
    rfl
  have nonempty := Pagination.encode_ne_empty (list.position item)
  rw [pageAt, handle_decoded (by omega) (by omega) admits distinct decoded, isSelected, items,
    nextCursor, if_neg (by simp only [List.length_append, List.length_cons, List.length_nil]; omega)]
  simp [page, nonempty]

/-- What a reader sees of a page: it begins what the cursor selects, and it is empty and final only
when the cursor selects nothing. -/
theorem pageAt_starts (least : 1 ≤ limit) (most : limit ≤ 100)
    (admits : list.Admits normalize principal) (distinct : list.Distinct normalize db principal)
    {part : List list.Item} {next : Option String}
    (isPage : list.pageAt normalize db principal limit raw = some (part, next)) :
    ∃ cursor, Pagination.decode raw = .ok cursor ∧
      part.head? = (list.selected normalize db principal cursor).head? ∧
      (list.selected normalize db principal cursor = [] → next = none) := by
  cases decoded : Pagination.decode raw with
  | error failure =>
    rw [pageAt_undecoded decoded] at isPage
    cases isPage
  | ok cursor =>
    refine ⟨cursor, rfl, ?_⟩
    rw [pageAt, handle_decoded least most admits distinct decoded, nextCursor] at isPage
    split_ifs at isPage with few
    · cases isPage
      exact ⟨by rw [List.head?_take, if_neg (by omega)], fun _ => rfl⟩
    · simp only [Option.some.injEq, Prod.mk.injEq] at isPage
      obtain ⟨rfl, -⟩ := isPage
      refine ⟨?_, ?_⟩
      · rw [List.head?_take, List.head?_take, if_neg (by omega), if_neg (by omega)]
      · intro nothing
        rw [nothing] at few
        simp at few

end Pages

/-! ## Reading a list -/

section Reading

variable {limit : Nat} {raw : String}

/-- A cursor that a part of the list is read from selects that part. -/
theorem selects_of_reads (least : 1 ≤ limit) (most : limit ≤ 100)
    (admits : list.Admits normalize principal) (distinct : list.Distinct normalize db principal)
    {rows : List list.Item} (isEnd : rows <:+ list.ordered normalize db principal)
    (nonempty : rows ≠ [])
    (reads : ReadsFrom (list.pageAt normalize db principal limit) limit raw rows) :
    ∃ cursor, Pagination.decode raw = .ok cursor ∧
      list.selected normalize db principal cursor = rows := by
  obtain ⟨part, next, isPage, begins, whole⟩ := readsFrom_starts reads
  obtain ⟨cursor, decoded, head, final⟩ := pageAt_starts least most admits distinct isPage
  refine ⟨cursor, decoded, ?_⟩
  have isSuffix : list.selected normalize db principal cursor <:+
      list.ordered normalize db principal := below_suffix distinct.strict _
  cases first : (list.selected normalize db principal cursor).head? with
  | none =>
    have nothing := List.head?_eq_none_iff.mp first
    have empty : part = [] := List.head?_eq_none_iff.mp (head.trans first)
    exact absurd ((whole (final nothing)).symm.trans empty) nonempty
  | some item =>
    have sameHead : rows.head? = some item := by
      obtain ⟨others, rfl⟩ := begins
      rw [List.head?_append, head, first]
      rfl
    exact suffix_eq distinct.nodup isSuffix isEnd first sameHead

/-- The cursor of an item selects what follows it exactly when it resumes. -/
theorem resumes_iff (distinct : list.Distinct normalize db principal)
    {before back : List list.Item} {item : list.Item}
    (isOrdered : list.ordered normalize db principal = before ++ item :: back) :
    list.Resumes normalize db principal item ↔
      ∃ cursor, Pagination.decode (Pagination.encode (list.position item)) = .ok cursor ∧
        list.selected normalize db principal cursor = back := by
  have follows : belowMark list.key (some (list.key item)) (list.ordered normalize db principal) =
      back := by
    rw [isOrdered]
    exact below_row (isOrdered ▸ distinct.strict)
  have inOrdered (other : list.Item) :
      other ∈ list.ordered normalize db principal ↔ other ∈ list.matching normalize db principal :=
    descending_perm.mem_iff
  refine exists_congr fun cursor => and_congr_right fun _ => ?_
  rw [← follows, selected, belowMark, belowMark]
  constructor
  · intro same
    refine List.filter_congr fun other member => ?_
    have alike := same other ((inOrdered other).mp member)
    rw [Bool.eq_iff_iff]
    simpa using alike
  · intro same other member
    have alike := congrArg (other ∈ ·) same
    simpa [(inOrdered other).mpr member] using alike

/-- The page ends of a list, from its first page on. -/
theorem pageEnd_split {ρ : Type} {front back : List ρ} (item : ρ)
    (isLimit : front.length + 1 = limit) (more : back ≠ []) (other : ρ) :
    PageEnd limit (front ++ item :: back) other ↔ other = item ∨ PageEnd limit back other := by
  constructor
  · rintro ⟨start, rest, same, nonempty, pages, isPages⟩
    cases pages with
    | zero => omega
    | succ pages =>
      by_cases isFirst : pages = 0
      · subst isFirst
        have sameLength : start.length = front.length := by lia
        obtain ⟨-, tails⟩ := List.append_inj same sameLength.symm
        exact Or.inl (List.cons.inj tails).1.symm
      · -- a later page: its front begins with the first page
        have longer : front.length + 1 ≤ start.length := by
          have : limit * 1 ≤ limit * pages := Nat.mul_le_mul_left limit (by omega)
          rw [Nat.mul_succ] at isPages
          omega
        obtain ⟨middle, rfl⟩ : ∃ middle, start = front ++ item :: middle := by
          have begins : front ++ [item] <+: start := by
            have whole : front ++ [item] <+: start ++ other :: rest := by
              rw [← same]
              exact ⟨back, by simp⟩
            exact List.prefix_of_prefix_length_le whole (List.prefix_append _ _) (by simpa using longer)
          obtain ⟨middle, rfl⟩ := begins
          exact ⟨middle, by simp⟩
        have tails : back = middle ++ other :: rest := by simpa using same
        refine Or.inr ⟨middle, rest, tails, nonempty, pages, ?_⟩
        rw [Nat.mul_succ] at isPages
        simp only [List.length_append, List.length_cons] at isPages
        omega
  · rintro (rfl | ⟨start, rest, rfl, nonempty, divides⟩)
    · exact ⟨front, back, rfl, more, by rw [isLimit]⟩
    · refine ⟨front ++ item :: start, rest, by simp, nonempty, ?_⟩
      have sum : (front ++ item :: start).length + 1 = limit + (start.length + 1) := by
        simp only [List.length_append, List.length_cons]
        omega
      rw [sum]
      exact (Nat.dvd_add_right (dvd_refl limit)).mpr divides

theorem pageEnd_short {ρ : Type} {rows : List ρ} {item : ρ} (few : rows.length ≤ limit) :
    ¬ PageEnd limit rows item := by
  rintro ⟨front, back, rfl, more, divides⟩
  have least : limit ≤ front.length + 1 := Nat.le_of_dvd (by omega) divides
  have := List.length_pos_iff.mpr more
  simp only [List.length_append, List.length_cons] at few
  omega

/-- Below a page size of 100, a part of the list that a cursor selects is read completely exactly
when every page but the last ends with an item whose cursor resumes. -/
theorem reads_selected_iff (least : 1 ≤ limit) (most : limit < 100)
    (admits : list.Admits normalize principal) (distinct : list.Distinct normalize db principal)
    (rows : List list.Item) (isEnd : rows <:+ list.ordered normalize db principal)
    (selects : ∃ cursor, Pagination.decode raw = .ok cursor ∧
      list.selected normalize db principal cursor = rows) :
    ReadsFrom (list.pageAt normalize db principal limit) limit raw rows ↔
      ∀ item, PageEnd limit rows item → list.Resumes normalize db principal item := by
  induction isSize : rows.length using Nat.strong_induction_on generalizing rows raw with
  | _ size ih =>
    obtain ⟨cursor, decoded, isSelected⟩ := selects
    by_cases few : rows.length ≤ limit
    · have isPage := pageAt_last least most.le admits distinct decoded (isSelected ▸ few)
      rw [readsFrom_last isPage, isSelected]
      exact ⟨fun _ item isPageEnd => absurd isPageEnd (pageEnd_short few), fun _ => ⟨rfl, few⟩⟩
    · -- the page that is cut off, its last item and what is left
      obtain ⟨front, item, back, rfl, isLimit⟩ : ∃ front item back,
          rows = front ++ item :: back ∧ front.length + 1 = limit := by
        have inRows : limit - 1 < rows.length := by omega
        refine ⟨rows.take (limit - 1), rows[limit - 1], rows.drop (limit - 1 + 1), ?_, ?_⟩
        · rw [← List.drop_eq_getElem_cons inRows, List.take_append_drop]
        · rw [List.length_take]
          omega
      have more : back ≠ [] := by
        rintro rfl
        simp only [List.length_append, List.length_cons, List.length_nil] at few
        omega
      obtain ⟨before, isOrdered⟩ := isEnd
      have isOrdered : list.ordered normalize db principal = (before ++ front) ++ item :: back := by
        rw [← isOrdered, List.append_assoc]
      have isBackEnd : back <:+ list.ordered normalize db principal :=
        ⟨before ++ front ++ [item], by rw [isOrdered, List.append_assoc, List.singleton_append]⟩
      have isPage := pageAt_more most admits distinct decoded isSelected isLimit more
      have shorter : back.length < size := by
        rw [← isSize]
        simp only [List.length_append, List.length_cons]
        omega
      have cut : front ++ item :: back = (front ++ [item]) ++ back := by simp
      rw [cut, readsFrom_next isPage (by simpa using isLimit.le), ← cut]
      have splits (other : list.Item) := pageEnd_split item isLimit more other
      constructor
      · intro reads other isPageEnd
        have selects := selects_of_reads least most.le admits distinct isBackEnd more reads
        rcases (splits other).mp isPageEnd with rfl | later
        · exact (resumes_iff distinct isOrdered).mpr selects
        · exact (ih back.length shorter back isBackEnd selects rfl).mp reads other later
      · intro resumes
        have selects := (resumes_iff distinct isOrdered).mp (resumes item ((splits item).mpr (Or.inl rfl)))
        exact (ih back.length shorter back isBackEnd selects rfl).mpr
          fun other later => resumes other ((splits other).mpr (Or.inr later))

end Reading

/-! ## The whole list -/

section Whole

variable {limit : Nat}

theorem selected_first :
    list.selected normalize db principal ⟨0, Uuid.nil⟩ = list.ordered normalize db principal :=
  List.filter_eq_self.mpr fun _ _ => rfl

theorem length_ordered :
    (list.ordered normalize db principal).length = (list.matching normalize db principal).length :=
  descending_perm.length_eq

/-- A refused request reads nothing. -/
theorem pageAt_refused (refused : ¬ list.Admits normalize principal) {raw : String} :
    list.pageAt normalize db principal limit raw = none := by
  simp only [pageAt, handle]
  cases parsePage ⟨raw, some (limit : Int)⟩ with
  | error failure => rfl
  | ok parsed =>
    obtain ⟨failure, isFailure⟩ : ∃ failure,
        list.fetch normalize db principal parsed.1 parsed.2 = .error failure :=
      fetch_refused refused parsed.1 parsed.2
    simp only [isFailure]

/-- Following `next_cursor` from the first page on returns every row of a list once, in descending
order and at most `limit` to a page, exactly when the request is admitted and either the rows fit on
one page, or the page size is below 100 and the cursor of every page but the last resumes. -/
theorem reads_all_iff (limit : Nat) (least : 1 ≤ limit) (most : limit ≤ 100)
    (distinct : list.Distinct normalize db principal) :
    ReadsFrom (list.pageAt normalize db principal limit) limit ""
        (list.ordered normalize db principal) ↔
      list.Admits normalize principal ∧
        ((list.matching normalize db principal).length ≤ limit ∨
          limit < 100 ∧ ∀ item, PageEnd limit (list.ordered normalize db principal) item →
            list.Resumes normalize db principal item) := by
  have first : ∃ cursor, Pagination.decode "" = .ok cursor ∧
      list.selected normalize db principal cursor = list.ordered normalize db principal :=
    ⟨_, rfl, selected_first⟩
  by_cases admits : list.Admits normalize principal
  · simp only [admits, true_and]
    by_cases full : limit = 100
    · subst full
      rw [readsFrom_last (pageAt_full admits distinct rfl), selected_first]
      constructor
      · rintro ⟨whole, few⟩
        rw [whole, length_ordered] at few
        exact Or.inl few
      · rintro (few | ⟨small, -⟩)
        · exact ⟨List.take_of_length_le (length_ordered.trans_le few), List.length_take_le 100 _⟩
        · exact absurd small (lt_irrefl 100)
    · have small : limit < 100 := by omega
      rw [reads_selected_iff least small admits distinct _ List.suffix_rfl first]
      constructor
      · intro resumes
        exact Or.inr ⟨small, resumes⟩
      · rintro (few | ⟨-, resumes⟩)
        · intro item isPageEnd
          exact absurd isPageEnd (pageEnd_short (length_ordered.trans_le few))
        · exact resumes
  · refine iff_of_false ?_ fun both => admits both.1
    intro reads
    obtain ⟨part, next, isPage, -⟩ := readsFrom_starts reads
    rw [pageAt_refused admits] at isPage
    cases isPage

/-- A row of today: a real identifier, and a microsecond between 2000 and the end of the 64-bit
nanoseconds. -/
def Modern (cursor : Cursor) : Prop :=
  cursor.id ≠ 0 ∧ cursor.id < 256 ^ 16 ∧ Pagination.year2000 ≤ cursor.time ∧
    Pagination.unixNano cursor.time < 2 ^ 63 ∧ timestamp cursor.time = cursor.time

/-- The cursor of such a row resumes. -/
theorem Modern.resumes {item : list.Item} (modern : Modern (list.position item)) :
    list.Resumes normalize db principal item := by
  obtain ⟨present, isUuid, recent, representable, whole⟩ := modern
  refine ⟨list.position item,
    Pagination.decode_encode_modern present isUuid recent representable, fun other _ => ?_⟩
  have nonzero : ¬ Time.isZero (list.position item).time := by
    intro isZero
    have zero : (list.position item).time = 0 := by simpa [Time.isZero] using isZero
    rw [zero] at recent
    revert recent
    decide
  rw [cursorMark, if_neg nonzero, whole, Option.all_some, decide_eq_true_eq]
  rfl

end Whole

end Listing

/-! ## Example lists -/

namespace Sample

/-- A user who registered `k` seconds into a day. -/
def member (k : Nat) : User :=
  { id := k + 1, subject := "", username := "", usernameNormalized := "", displayName := ""
    email := "", emailNormalized := "", emailVerified := false, status := .active, role := .user
    createdAt := Time.ofUnix (1700000000 + k), updatedAt := Time.ofUnix (1700000000 + k)
    lastLoginAt := none, version := 1 }

/-- A database with some users. -/
def crowd (count : Nat) : Db := { Db.empty Zone.utc with users := (List.range count).map member }

/-- An administrator. -/
def reader : Principal := ⟨{ member 0 with role := .admin }, 1⟩

theorem crowd_matching (count : Nat) :
    (Listing.users "").matching id (crowd count) reader = (List.range count).map member :=
  List.filter_eq_self.mpr fun _ _ => rfl

theorem crowd_distinct (count : Nat) : (Listing.users "").Distinct id (crowd count) reader := by
  have positions : ((Listing.users "").matching id (crowd count) reader).map
      (Listing.users "").position =
      (List.range count).map fun k => (Listing.users "").position (member k) :=
    (congrArg (List.map _) (crowd_matching count)).trans List.map_map
  rw [Listing.Distinct, positions]
  refine List.Nodup.map (fun j k same => ?_) List.nodup_range
  have sameID : j + 1 = k + 1 := congrArg Cursor.id same
  omega

theorem member_modern {k : Nat} (small : k < 1000) :
    Listing.Modern ((Listing.users "").position (member k)) := by
  refine ⟨Nat.succ_ne_zero k, ?_, ?_, ?_, ?_⟩
  · show k + 1 < 256 ^ 16
    omega
  all_goals
    simp only [Listing.position, member, Pagination.year2000, Pagination.unixNano, timestamp,
      Time.ofUnix, seconds, microseconds]
    lia

end Sample

/-- Five users are read in pages of two. -/
theorem reads_all_sample :
    ReadsFrom ((Listing.users "").pageAt id (Sample.crowd 5) Sample.reader (2 : Nat)) 2 ""
      ((Listing.users "").ordered id (Sample.crowd 5) Sample.reader) := by
  refine (Listing.reads_all_iff 2 (by decide) (by decide) (Sample.crowd_distinct 5)).mpr
    ⟨by decide, Or.inr ⟨by decide, ?_⟩⟩
  rintro item ⟨front, back, isOrdered, -⟩
  have inOrdered : item ∈ (Listing.users "").ordered id (Sample.crowd 5) Sample.reader := by
    rw [isOrdered]
    simp
  have inMatching := descending_perm.mem_iff.mp inOrdered
  rw [Sample.crowd_matching] at inMatching
  obtain ⟨k, inRange, rfl⟩ := List.mem_map.mp inMatching
  exact Listing.Modern.resumes (Sample.member_modern (by have := List.mem_range.mp inRange; omega))

/-- Of 101 users the reader of pages of 100 gets the first page, without a next cursor. -/
theorem full_page_ends_list :
    (Listing.users "").Distinct id (Sample.crowd 101) Sample.reader ∧
      (Listing.users "").Admits id Sample.reader ∧
      ((Listing.users "").matching id (Sample.crowd 101) Sample.reader).length = 101 ∧
      (Listing.users "").pageAt id (Sample.crowd 101) Sample.reader (100 : Nat) "" =
        some (((Listing.users "").ordered id (Sample.crowd 101) Sample.reader).take 100, none) ∧
      ¬ ReadsFrom ((Listing.users "").pageAt id (Sample.crowd 101) Sample.reader (100 : Nat)) 100 ""
        ((Listing.users "").ordered id (Sample.crowd 101) Sample.reader) := by
  have distinct := Sample.crowd_distinct 101
  have admits : (Listing.users "").Admits id Sample.reader := by decide
  have count : ((Listing.users "").matching id (Sample.crowd 101) Sample.reader).length = 101 :=
    (congrArg List.length (Sample.crowd_matching 101)).trans
      ((List.length_map _).trans List.length_range)
  have isPage : (Listing.users "").pageAt id (Sample.crowd 101) Sample.reader (100 : Nat) "" =
      some (((Listing.users "").selected id (Sample.crowd 101) Sample.reader ⟨0, Uuid.nil⟩).take 100,
        none) := Listing.pageAt_full admits distinct rfl
  rw [Listing.selected_first] at isPage
  refine ⟨distinct, admits, count, isPage, ?_⟩
  rw [readsFrom_last isPage]
  rintro ⟨whole, few⟩
  rw [whole, Listing.length_ordered, count] at few
  omega

end OneIssuer
