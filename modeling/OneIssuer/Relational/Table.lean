import Mathlib.Data.List.Nodup
import Mathlib.Data.List.Sort

/-!
# Tables as lists of keyed rows

A table is a list of rows, and a key reads the identity of a row. `update` and `insert` are the two
ways a statement changes rows it does not delete: both look for a constraint violation first and
change nothing when there is one.

Two relations say what may have happened to a table. `Grows key R` says that no row was lost: every
row of the new table continues an old row along `R` or has a key no old row had, and every old key
is still there. `Shrinks key R` says that no row was added: every row of the new table continues an
old one. Both are preorders when `R` is, so they lift from statements to whole bodies, and either
gives `Evolves`, which is what a reader of the new table can rely on.
-/

set_option autoImplicit false

namespace Relational

variable {ρ κ φ : Type}

/-! ## Statements on one table -/

/-- The table after `set` was applied to the matching rows. -/
def updateRows (matching : ρ → Bool) (set : ρ → ρ) (rows : List ρ) : List ρ :=
  rows.map fun row => if matching row then set row else row

/-- `UPDATE … WHERE … RETURNING`: the changed rows and the new table, or the first violation among
the changed rows. -/
def update (violation : ρ → Option φ) (matching : ρ → Bool) (set : ρ → ρ) (rows : List ρ) :
    Except φ (List ρ × List ρ) :=
  let changed := (rows.filter matching).map set
  match changed.findSome? violation with
  | some failure => .error failure
  | none => .ok (changed, updateRows matching set rows)

/-- `INSERT … RETURNING`: the new table, or the violation. -/
def insert (violation : ρ → Option φ) (row : ρ) (rows : List ρ) : Except φ (List ρ) :=
  match violation row with
  | some failure => .error failure
  | none => .ok (rows ++ [row])

/-- The rows one bounded batch takes: those that are eligible and not held by another transaction,
in order, up to the limit. -/
def batch (eligible skipped : ρ → Bool) (order : ρ → ρ → Bool) (limit : Nat) (rows : List ρ) :
    List ρ :=
  ((rows.filter fun row => eligible row && !skipped row).insertionSort
    (fun a b => order a b)).take limit

/-- A row that a batch takes is an eligible row of the table. -/
theorem mem_batch {eligible skipped : ρ → Bool} {order : ρ → ρ → Bool} {limit : Nat} {rows : List ρ}
    {row : ρ} (taken : row ∈ batch eligible skipped order limit rows) :
    row ∈ rows ∧ eligible row := by
  have kept := (List.mem_insertionSort _).mp (List.mem_of_mem_take taken)
  simp only [List.mem_filter, Bool.and_eq_true] at kept
  exact ⟨kept.1, kept.2.1⟩

/-- A batch that is not full took every row it could. -/
theorem mem_batch_of_short {eligible skipped : ρ → Bool} {order : ρ → ρ → Bool} {limit : Nat}
    {rows : List ρ} (short : (batch eligible skipped order limit rows).length < limit) {row : ρ}
    (member : row ∈ rows) (isEligible : eligible row) (free : skipped row = false) :
    row ∈ batch eligible skipped order limit rows := by
  have all : batch eligible skipped order limit rows =
      (rows.filter fun row => eligible row && !skipped row).insertionSort
        (fun a b => order a b) := by
    refine List.take_of_length_le ?_
    rw [batch, List.length_take] at short
    omega
  rw [all, List.mem_insertionSort, List.mem_filter]
  exact ⟨member, by simp [isEligible, free]⟩

/-- A batch takes no row that another transaction holds. -/
theorem not_skipped_of_batch {eligible skipped : ρ → Bool} {order : ρ → ρ → Bool} {limit : Nat}
    {rows : List ρ} {row : ρ} (taken : row ∈ batch eligible skipped order limit rows) :
    skipped row = false := by
  have kept := (List.mem_insertionSort _).mp (List.mem_of_mem_take taken)
  simp only [List.mem_filter, Bool.and_eq_true, Bool.not_eq_true'] at kept
  exact kept.2.2

theorem map_ok {α β : Type} {f : α → β} {outcome : Except φ α} {result : β} :
    outcome.map f = .ok result ↔ ∃ value, outcome = .ok value ∧ result = f value := by
  cases outcome with
  | error failure => simp [Except.map]
  | ok value => simp [Except.map, eq_comm]

theorem bind_ok {α β : Type} {f : α → Except φ β} {outcome : Except φ α} {result : β} :
    (outcome >>= f) = .ok result ↔ ∃ value, outcome = .ok value ∧ f value = .ok result := by
  cases outcome with
  | error failure => simp [bind, Except.bind]
  | ok value => simp [bind, Except.bind]

theorem update_ok {violation : ρ → Option φ} {matching : ρ → Bool} {set : ρ → ρ} {rows : List ρ}
    {changed after : List ρ} :
    update violation matching set rows = .ok (changed, after) ↔
      (∀ row ∈ rows, matching row → violation (set row) = none) ∧
        changed = (rows.filter matching).map set ∧ after = updateRows matching set rows := by
  simp only [update]
  cases failed : ((rows.filter matching).map set).findSome? violation with
  | some failure =>
    simp only [reduceCtorEq, false_iff, not_and]
    intro fine
    obtain ⟨row, member, violated⟩ := List.exists_of_findSome?_eq_some failed
    simp only [List.mem_map, List.mem_filter] at member
    obtain ⟨old, ⟨inRows, isMatching⟩, rfl⟩ := member
    rw [fine old inRows isMatching] at violated
    cases violated
  | none =>
    simp only [List.findSome?_eq_none_iff, List.mem_map, List.mem_filter] at failed
    simp only [Except.ok.injEq, Prod.mk.injEq]
    constructor
    · rintro ⟨rfl, rfl⟩
      exact ⟨fun row inRows isMatching => failed _ ⟨row, ⟨inRows, isMatching⟩, rfl⟩, rfl, rfl⟩
    · rintro ⟨-, rfl, rfl⟩
      exact ⟨rfl, rfl⟩

/-- An update of the same rows ends alike in two tables. -/
theorem update_alike (violation : ρ → Option φ) {matching : ρ → Bool} (set : ρ → ρ)
    {rows others : List ρ} (same : rows.filter matching = others.filter matching) :
    (∃ failure, update violation matching set rows = .error failure ∧
        update violation matching set others = .error failure) ∨
      ∃ changed, update violation matching set rows = .ok (changed, updateRows matching set rows) ∧
        update violation matching set others = .ok (changed, updateRows matching set others) := by
  simp only [update, same]
  cases ((others.filter matching).map set).findSome? violation with
  | some failure => exact Or.inl ⟨failure, rfl, rfl⟩
  | none => exact Or.inr ⟨_, rfl, rfl⟩

theorem insert_ok {violation : ρ → Option φ} {row : ρ} {rows after : List ρ} :
    insert violation row rows = .ok after ↔ violation row = none ∧ after = rows ++ [row] := by
  simp only [insert]
  cases violation row with
  | some failure => simp
  | none => simp [eq_comm]

theorem mem_updateRows {matching : ρ → Bool} {set : ρ → ρ} {rows : List ρ} {row : ρ} :
    row ∈ updateRows matching set rows ↔
      ∃ old ∈ rows, row = if matching old then set old else old := by
  simp only [updateRows, List.mem_map]
  constructor
  · rintro ⟨old, inRows, rfl⟩
    exact ⟨old, inRows, rfl⟩
  · rintro ⟨old, inRows, rfl⟩
    exact ⟨old, inRows, rfl⟩

/-- Rows that an update does not match are the same rows after it. -/
theorem filter_updateRows {matching kept : ρ → Bool} {set : ρ → ρ} {rows : List ρ}
    (untouched : ∀ row ∈ rows, matching row → kept row = false ∧ kept (set row) = false) :
    (updateRows matching set rows).filter kept = rows.filter kept := by
  induction rows with
  | nil => rfl
  | cons first rest ih =>
    have inRest := ih fun row member => untouched row (List.mem_cons_of_mem _ member)
    by_cases isMatching : matching first
    · obtain ⟨before, after⟩ := untouched first List.mem_cons_self isMatching
      simp only [updateRows, List.map_cons, isMatching, if_true, List.filter_cons, before, after,
        Bool.false_eq_true, if_false]
      exact inRest
    · simp only [updateRows, List.map_cons, isMatching, Bool.false_eq_true, if_false,
        List.filter_cons]
      rw [← inRest]
      rfl

/-- Where two tables agree on the rows that pass a filter, they agree on every part of those rows. -/
theorem filter_eq_of_filter_eq {wide narrow : ρ → Bool} {rows others : List ρ}
    (same : rows.filter wide = others.filter wide)
    (inRows : ∀ row ∈ rows, narrow row → wide row)
    (inOthers : ∀ row ∈ others, narrow row → wide row) :
    rows.filter narrow = others.filter narrow := by
  have within {table : List ρ} (inTable : ∀ row ∈ table, narrow row → wide row) :
      table.filter narrow = (table.filter wide).filter narrow := by
    rw [List.filter_filter]
    refine List.filter_congr fun row member => ?_
    cases isNarrow : narrow row with
    | false => rfl
    | true => simp [inTable row member isNarrow]
  rw [within inRows, within inOthers, same]

/-! ## Columns over time -/

section Columns

variable {α : Type}

/-- A column that is written once: a value that is there stays. -/
def WrittenOnce (old new : Option α) : Prop := ∀ value, old = some value → new = some value

/-- A reference that may be cleared and nothing else. -/
def OnlyCleared (old new : Option α) : Prop := new = old ∨ new = none

theorem WrittenOnce.refl (column : Option α) : WrittenOnce column column := fun _ same => same

theorem WrittenOnce.trans {first second third : Option α} (early : WrittenOnce first second)
    (late : WrittenOnce second third) : WrittenOnce first third :=
  fun value isValue => late value (early value isValue)

theorem WrittenOnce.of_none {new : Option α} : WrittenOnce none new := nofun

theorem WrittenOnce.isSome {old new : Option α} (once : WrittenOnce old new)
    (written : old.isSome) : new.isSome := by
  obtain ⟨value, isValue⟩ := Option.isSome_iff_exists.mp written
  rw [once value isValue]
  rfl

theorem OnlyCleared.refl (column : Option α) : OnlyCleared column column := Or.inl rfl

theorem OnlyCleared.trans {first second third : Option α} (early : OnlyCleared first second)
    (late : OnlyCleared second third) : OnlyCleared first third := by
  rcases late with same | cleared
  · exact same ▸ early
  · exact Or.inr cleared

end Columns

/-! ## What may have happened to a table -/

section Evolution

variable (key : ρ → κ) (R : ρ → ρ → Prop)

/-- `row` continues a row of `before`. -/
def Continues (before : List ρ) (row : ρ) : Prop :=
  ∃ old ∈ before, key old = key row ∧ R old row

/-- No row was lost. -/
structure Grows (before after : List ρ) : Prop where
  origin : ∀ row ∈ after, Continues key R before row ∨ ∀ old ∈ before, key old ≠ key row
  kept : ∀ old ∈ before, ∃ row ∈ after, key row = key old

/-- No row was added. -/
def Shrinks (before after : List ρ) : Prop := ∀ row ∈ after, Continues key R before row

/-- A row of the new table continues an old one or has a key no old one had. -/
def Evolves (before after : List ρ) : Prop :=
  ∀ row ∈ after, Continues key R before row ∨ ∀ old ∈ before, key old ≠ key row

variable {key R}

theorem Grows.evolves {before after : List ρ} (grows : Grows key R before after) :
    Evolves key R before after := grows.origin

theorem Shrinks.evolves {before after : List ρ} (shrinks : Shrinks key R before after) :
    Evolves key R before after := fun row member => Or.inl (shrinks row member)

theorem Grows.refl (refl : ∀ row, R row row) (rows : List ρ) : Grows key R rows rows where
  origin row member := Or.inl ⟨row, member, rfl, refl row⟩
  kept row member := ⟨row, member, rfl⟩

theorem Shrinks.refl (refl : ∀ row, R row row) (rows : List ρ) : Shrinks key R rows rows :=
  fun row member => ⟨row, member, rfl, refl row⟩

theorem Continues.trans (trans : ∀ a b c, R a b → R b c → R a c) {before : List ρ} {row old : ρ}
    (continued : Continues key R before old) (sameKey : key old = key row) (related : R old row) :
    Continues key R before row := by
  obtain ⟨oldest, member, oldKey, oldRelated⟩ := continued
  exact ⟨oldest, member, oldKey.trans sameKey, trans oldest old row oldRelated related⟩

theorem Grows.trans (trans : ∀ a b c, R a b → R b c → R a c) {before between after : List ρ}
    (first : Grows key R before between) (second : Grows key R between after) :
    Grows key R before after where
  origin row member := by
    rcases second.origin row member with ⟨old, inBetween, sameKey, related⟩ | fresh
    · rcases first.origin old inBetween with continued | fresh
      · exact Or.inl (continued.trans trans sameKey related)
      · exact Or.inr fun oldest inBefore => sameKey ▸ fresh oldest inBefore
    · refine Or.inr fun old inBefore sameKey => ?_
      obtain ⟨kept, inBetween, keptKey⟩ := first.kept old inBefore
      exact fresh kept inBetween (keptKey.trans sameKey)
  kept old inBefore := by
    obtain ⟨row, inBetween, rowKey⟩ := first.kept old inBefore
    obtain ⟨last, inAfter, lastKey⟩ := second.kept row inBetween
    exact ⟨last, inAfter, lastKey.trans rowKey⟩

theorem Shrinks.trans (trans : ∀ a b c, R a b → R b c → R a c) {before between after : List ρ}
    (first : Shrinks key R before between) (second : Shrinks key R between after) :
    Shrinks key R before after := by
  intro row member
  obtain ⟨old, inBetween, sameKey, related⟩ := second row member
  exact (first old inBetween).trans trans sameKey related

/-- An update that keeps keys and moves the matching rows along `R`. -/
theorem grows_updateRows {matching : ρ → Bool} {set : ρ → ρ} {rows : List ρ}
    (refl : ∀ row, R row row) (sameKey : ∀ row, key (set row) = key row)
    (moves : ∀ row ∈ rows, matching row → R row (set row)) :
    Grows key R rows (updateRows matching set rows) where
  origin row member := by
    obtain ⟨old, inRows, rfl⟩ := mem_updateRows.mp member
    refine Or.inl ⟨old, inRows, ?_⟩
    by_cases isMatching : matching old
    · simpa [isMatching, sameKey] using moves old inRows isMatching
    · simpa [isMatching] using refl old
  kept old inRows := by
    refine ⟨_, mem_updateRows.mpr ⟨old, inRows, rfl⟩, ?_⟩
    by_cases isMatching : matching old <;> simp [isMatching, sameKey]

theorem shrinks_updateRows {matching : ρ → Bool} {set : ρ → ρ} {rows : List ρ}
    (refl : ∀ row, R row row) (sameKey : ∀ row, key (set row) = key row)
    (moves : ∀ row ∈ rows, matching row → R row (set row)) :
    Shrinks key R rows (updateRows matching set rows) := by
  intro row member
  obtain ⟨old, inRows, rfl⟩ := mem_updateRows.mp member
  refine ⟨old, inRows, ?_⟩
  by_cases isMatching : matching old
  · simpa [isMatching, sameKey] using moves old inRows isMatching
  · simpa [isMatching] using refl old

/-- An insert of a row with a new key. -/
theorem grows_append {rows : List ρ} {row : ρ} (refl : ∀ row, R row row)
    (fresh : ∀ old ∈ rows, key old ≠ key row) : Grows key R rows (rows ++ [row]) where
  origin last member := by
    rcases List.mem_append.mp member with inRows | isRow
    · exact Or.inl ⟨last, inRows, rfl, refl last⟩
    · rw [List.mem_singleton.mp isRow]
      exact Or.inr fresh
  kept old inRows := ⟨old, List.mem_append_left _ inRows, rfl⟩

/-- Rows only moved along `R`, each in its place. -/
abbrev Moved (R : ρ → ρ → Prop) (before after : List ρ) : Prop := List.Forall₂ R before after

theorem moved_refl (refl : ∀ row, R row row) (rows : List ρ) : Moved R rows rows :=
  List.forall₂_same.mpr fun row _ => refl row

theorem moved_trans (trans : ∀ a b c, R a b → R b c → R a c) {before between after : List ρ}
    (first : Moved R before between) (second : Moved R between after) : Moved R before after := by
  induction first generalizing after with
  | nil =>
    cases second
    exact .nil
  | cons related _ ih =>
    cases second with
    | cons next rest => exact .cons (trans _ _ _ related next) (ih rest)

theorem Moved.origin {before after : List ρ} (moved : Moved R before after) {row : ρ}
    (member : row ∈ after) : ∃ old ∈ before, R old row := by
  induction moved with
  | nil => cases member
  | cons related _ ih =>
    rcases List.mem_cons.mp member with rfl | inRest
    · exact ⟨_, List.mem_cons_self, related⟩
    · obtain ⟨old, inBefore, continued⟩ := ih inRest
      exact ⟨old, List.mem_cons_of_mem _ inBefore, continued⟩

theorem Moved.kept {before after : List ρ} (moved : Moved R before after) {old : ρ}
    (member : old ∈ before) : ∃ row ∈ after, R old row := by
  induction moved with
  | nil => cases member
  | cons related _ ih =>
    rcases List.mem_cons.mp member with rfl | inRest
    · exact ⟨_, List.mem_cons_self, related⟩
    · obtain ⟨row, inAfter, continued⟩ := ih inRest
      exact ⟨row, List.mem_cons_of_mem _ inAfter, continued⟩

theorem moved_updateRows {matching : ρ → Bool} {set : ρ → ρ} {rows : List ρ}
    (refl : ∀ row, R row row) (moves : ∀ row ∈ rows, matching row → R row (set row)) :
    Moved R rows (updateRows matching set rows) := by
  rw [updateRows, Moved, List.forall₂_map_right_iff, List.forall₂_same]
  intro row member
  split
  · exact moves row member ‹_›
  · exact refl row

/-- A delete. -/
theorem shrinks_filter {rows : List ρ} (kept : ρ → Bool) (refl : ∀ row, R row row) :
    Shrinks key R rows (rows.filter kept) :=
  fun row member => ⟨row, (List.mem_filter.mp member).1, rfl, refl row⟩

end Evolution

/-! ## Keys -/

section Keys

variable {key : ρ → κ}

/-- Rows with the same key are the same row. -/
theorem eq_of_key {rows : List ρ} (distinct : (rows.map key).Nodup) {first second : ρ}
    (inFirst : first ∈ rows) (inSecond : second ∈ rows) (sameKey : key first = key second) :
    first = second := List.inj_on_of_nodup_map distinct inFirst inSecond sameKey

/-- Looking a key up finds the row that has it. -/
theorem find?_key [BEq κ] [LawfulBEq κ] {rows : List ρ} (distinct : (rows.map key).Nodup) {row : ρ}
    {k : κ} : rows.find? (key · == k) = some row ↔ row ∈ rows ∧ key row = k := by
  constructor
  · intro found
    exact ⟨List.mem_of_find?_eq_some found, by simpa using List.find?_some found⟩
  · rintro ⟨member, rfl⟩
    cases found : rows.find? (key · == key row) with
    | none =>
      have missing := List.find?_eq_none.mp found row member
      simp at missing
    | some other =>
      have sameKey : key other = key row := by simpa using List.find?_some found
      rw [eq_of_key distinct (List.mem_of_find?_eq_some found) member sameKey]

theorem nodup_updateRows {matching : ρ → Bool} {set : ρ → ρ} {rows : List ρ}
    (sameKey : ∀ row, key (set row) = key row) (distinct : (rows.map key).Nodup) :
    ((updateRows matching set rows).map key).Nodup := by
  have unchanged : (updateRows matching set rows).map key = rows.map key := by
    simp only [updateRows, List.map_map]
    refine List.map_congr_left fun row _ => ?_
    by_cases isMatching : matching row <;> simp [isMatching, sameKey]
  rw [unchanged]
  exact distinct

theorem nodup_append {rows : List ρ} {row : ρ} (fresh : ∀ old ∈ rows, key old ≠ key row)
    (distinct : (rows.map key).Nodup) : ((rows ++ [row]).map key).Nodup := by
  rw [List.map_append, List.nodup_append]
  refine ⟨distinct, by simp, ?_⟩
  intro k inRows last isLast same
  obtain ⟨old, member, rfl⟩ := List.mem_map.mp inRows
  simp only [List.map_cons, List.map_nil, List.mem_singleton] at isLast
  exact fresh old member (same.trans isLast)

theorem nodup_filter {rows : List ρ} (kept : ρ → Bool) (distinct : (rows.map key).Nodup) :
    ((rows.filter kept).map key).Nodup :=
  distinct.sublist (List.filter_sublist.map key)

/-- A row with a key of the old table continues the old row that had it. -/
theorem Evolves.continues {R : ρ → ρ → Prop} {before after : List ρ}
    (evolves : Evolves key R before after) (distinct : (before.map key).Nodup) {old row : ρ}
    (inBefore : old ∈ before) (inAfter : row ∈ after) (sameKey : key row = key old) :
    R old row := by
  rcases evolves row inAfter with ⟨origin, inOld, originKey, related⟩ | fresh
  · have same : origin = old := eq_of_key distinct inOld inBefore (originKey.trans sameKey)
    exact same ▸ related
  · exact absurd sameKey.symm (fresh old inBefore)

/-- A row of the old table is found in the new one. -/
theorem Grows.find? [BEq κ] [LawfulBEq κ] {R : ρ → ρ → Prop} {before after : List ρ}
    (grows : Grows key R before after) (distinct : (before.map key).Nodup)
    (distinctAfter : (after.map key).Nodup) {k : κ} {old : ρ}
    (found : before.find? (key · == k) = some old) :
    ∃ new, after.find? (key · == k) = some new ∧ R old new := by
  obtain ⟨inBefore, isKey⟩ := (find?_key distinct).mp found
  obtain ⟨new, inAfter, sameKey⟩ := grows.kept old inBefore
  exact ⟨new, (find?_key distinctAfter).mpr ⟨inAfter, sameKey.trans isKey⟩,
    grows.evolves.continues distinct inBefore inAfter sameKey⟩

/-- An update that keeps keys changes what a lookup finds. -/
theorem find?_updateRows [BEq κ] {matching : ρ → Bool} {set : ρ → ρ} {rows : List ρ}
    (sameKey : ∀ row, key (set row) = key row) {k : κ} :
    (updateRows matching set rows).find? (key · == k) =
      (rows.find? (key · == k)).map fun row => if matching row then set row else row := by
  rw [updateRows, List.find?_map]
  congr 2
  funext row
  simp only [Function.comp_apply]
  split
  · rw [sameKey]
  · rfl

end Keys

/-! ## Statements of a table -/

/-- The statements on a table with rows `ρ` and SET clauses `χ` that delete nothing. -/
inductive TableStmt (ρ χ : Type) : Type → Type where
  /-- `INSERT`. -/
  | insert (row : ρ) : TableStmt ρ χ Unit
  /-- `SELECT … WHERE … ORDER BY … FOR UPDATE`. -/
  | lock (matching : ρ → Bool) : TableStmt ρ χ (List ρ)
  /-- `UPDATE … SET … WHERE … RETURNING`. -/
  | update (matching : ρ → Bool) (change : χ) : TableStmt ρ χ (List ρ)

/-- What a database of type `σ` says about one of its tables. -/
structure TableSpec (σ ρ χ φ : Type) where
  /-- Why a row may not be inserted. -/
  insertViolation : σ → ρ → Option φ
  /-- Why a SET clause may not leave a row behind. -/
  updateViolation : σ → χ → ρ → Option φ
  /-- The part of the WHERE clause that every statement with this SET clause has. -/
  guard : χ → ρ → Bool
  /-- The SET clause. -/
  apply : χ → ρ → ρ
  /-- The order in which locking reads return rows. -/
  order : ρ → ρ → Bool

namespace TableStmt

variable {σ χ β : Type}

/-- The statement inserts a row. -/
def inserts : TableStmt ρ χ β → Bool
  | .insert _ => true
  | _ => false

/-- The statement is a locking read. -/
def isLock : TableStmt ρ χ β → Bool
  | .lock _ => true
  | _ => false

/-- Runs a statement against the rows of its table in the database `s`. -/
def exec (spec : TableSpec σ ρ χ φ) (s : σ) (rows : List ρ) :
    TableStmt ρ χ β → Except φ (β × List ρ)
  | .insert row => (Relational.insert (spec.insertViolation s) row rows).map fun after => ((), after)
  | .lock matching =>
    .ok ((rows.filter matching).insertionSort (fun a b => spec.order a b), rows)
  | .update matching change =>
    Relational.update (spec.updateViolation s change)
      (fun row => spec.guard change row && matching row) (spec.apply change) rows

section Ok

variable {spec : TableSpec σ ρ χ φ} {s : σ} {rows after : List ρ}

@[simp] theorem exec_insert_ok {row : ρ} {answer : Unit} :
    (TableStmt.insert row : TableStmt ρ χ Unit).exec spec s rows = .ok (answer, after) ↔
      spec.insertViolation s row = none ∧ after = rows ++ [row] := by
  simp only [exec]
  cases inserted : Relational.insert (spec.insertViolation s) row rows with
  | error failure =>
    simp only [Except.map, reduceCtorEq, false_iff]
    rintro ⟨allowed, -⟩
    simp [Relational.insert, allowed] at inserted
  | ok table =>
    obtain ⟨allowed, rfl⟩ := insert_ok.mp inserted
    simp [Except.map, allowed, eq_comm]

@[simp] theorem exec_lock_ok {matching : ρ → Bool} {answer : List ρ} :
    (TableStmt.lock matching : TableStmt ρ χ (List ρ)).exec spec s rows = .ok (answer, after) ↔
      answer = (rows.filter matching).insertionSort (fun a b => spec.order a b) ∧ after = rows := by
  simp only [exec, Except.ok.injEq, Prod.mk.injEq]
  exact ⟨fun ran => ⟨ran.1.symm, ran.2.symm⟩, fun ran => ⟨ran.1.symm, ran.2.symm⟩⟩

@[simp] theorem exec_update_ok {matching : ρ → Bool} {change : χ} {answer : List ρ} :
    (TableStmt.update matching change : TableStmt ρ χ (List ρ)).exec spec s rows =
        .ok (answer, after) ↔
      (∀ row ∈ rows, spec.guard change row && matching row →
        spec.updateViolation s change (spec.apply change row) = none) ∧
      answer = (rows.filter fun row => spec.guard change row && matching row).map
        (spec.apply change) ∧
      after = updateRows (fun row => spec.guard change row && matching row) (spec.apply change)
        rows := by
  simp only [exec]
  exact update_ok

/-- A locking read that at most one row matches answers with that row. -/
theorem lock_head {matching : ρ → Bool} {order : ρ → ρ → Bool} {row : ρ}
    (unique : ∀ a ∈ rows, ∀ b ∈ rows, matching a → matching b → a = b) :
    ((rows.filter matching).insertionSort fun a b => order a b).head? = some row ↔
      row ∈ rows ∧ matching row = true := by
  have found : ∀ row, row ∈ (rows.filter matching).insertionSort (fun a b => order a b) ↔
      row ∈ rows ∧ matching row = true := by
    intro row
    rw [List.mem_insertionSort, List.mem_filter]
  constructor
  · intro head
    exact (found row).mp (List.mem_of_head? head)
  · intro matches'
    have member := (found row).mpr matches'
    obtain ⟨first, isFirst⟩ := Option.isSome_iff_exists.mp
      (List.isSome_head?.mpr (List.ne_nil_of_mem member))
    have firstMatches := (found first).mp (List.mem_of_head? isFirst)
    rw [isFirst, unique first firstMatches.1 row matches'.1 firstMatches.2 matches'.2]

/-- An update that at most one row matches answers with that row, changed. -/
theorem update_head {matching : ρ → Bool} {change : χ} {row : ρ}
    (unique : ∀ a ∈ rows, ∀ b ∈ rows, matching a → matching b → a = b) :
    (∃ answer, (TableStmt.update matching change : TableStmt ρ χ (List ρ)).exec spec s rows =
        .ok (answer, after) ∧ answer.head? = some row) ↔
      ∃ old ∈ rows, matching old = true ∧ spec.guard change old = true ∧
        spec.updateViolation s change (spec.apply change old) = none ∧
        row = spec.apply change old ∧
        after = updateRows (fun row => spec.guard change row && matching row) (spec.apply change)
          rows := by
  constructor
  · rintro ⟨answer, ran, head⟩
    obtain ⟨allowed, rfl, rfl⟩ := exec_update_ok.mp ran
    obtain ⟨old, member, rfl⟩ := List.mem_map.mp (List.mem_of_head? head)
    obtain ⟨inRows, chosen⟩ := List.mem_filter.mp member
    have both := Bool.and_eq_true_iff.mp chosen
    exact ⟨old, inRows, both.2, both.1, allowed old inRows chosen, rfl, rfl⟩
  · rintro ⟨old, inRows, isMatching, guarded, allowed, rfl, rfl⟩
    refine ⟨_, exec_update_ok.mpr ⟨?_, rfl, rfl⟩, ?_⟩
    · intro other inOther chosen
      have both := Bool.and_eq_true_iff.mp chosen
      rw [unique other inOther old inRows both.2 isMatching]
      exact allowed
    · have member : old ∈ rows.filter fun row => spec.guard change row && matching row :=
        List.mem_filter.mpr ⟨inRows, by rw [guarded, isMatching]; rfl⟩
      obtain ⟨first, isFirst⟩ := Option.isSome_iff_exists.mp
        (List.isSome_head?.mpr (List.ne_nil_of_mem member))
      obtain ⟨inFirst, chosen⟩ := List.mem_filter.mp (List.mem_of_head? isFirst)
      have both := Bool.and_eq_true_iff.mp chosen
      rw [List.head?_map, isFirst, unique first inFirst old inRows both.2 isMatching]
      rfl

end Ok

/-- A key the table enforces: SET clauses keep it, and a row that may be inserted brings a new
one. -/
structure Keyed (spec : TableSpec σ ρ χ φ) (key : ρ → κ) (s : σ) (rows : List ρ) : Prop where
  sameKey : ∀ change row, key (spec.apply change row) = key row
  fresh : ∀ row, spec.insertViolation s row = none → ∀ old ∈ rows, key old ≠ key row

/-- A row relation every SET clause of the table moves along. -/
structure Respects (spec : TableSpec σ ρ χ φ) (key : ρ → κ) (R : ρ → ρ → Prop) (s : σ)
    (rows : List ρ) : Prop extends Keyed spec key s rows where
  refl : ∀ row, R row row
  moves : ∀ change row, spec.guard change row → R row (spec.apply change row)

variable {spec : TableSpec σ ρ χ φ} {key : ρ → κ} {R : ρ → ρ → Prop} {s : σ} {rows after : List ρ}

/-- No statement other than a delete loses a row. -/
theorem exec_grows (respects : Respects spec key R s rows) (statement : TableStmt ρ χ β)
    {answer : β} (ran : statement.exec spec s rows = .ok (answer, after)) :
    Grows key R rows after := by
  cases statement with
  | insert row =>
    obtain ⟨allowed, rfl⟩ := exec_insert_ok.mp ran
    exact grows_append respects.refl (respects.fresh row allowed)
  | lock matching =>
    obtain ⟨-, rfl⟩ := exec_lock_ok.mp ran
    exact Grows.refl respects.refl _
  | update matching change =>
    obtain ⟨-, -, rfl⟩ := exec_update_ok.mp ran
    refine grows_updateRows respects.refl (respects.sameKey change) fun row _ chosen => ?_
    exact respects.moves change row (Bool.and_eq_true_iff.mp chosen).1

/-- A locking read leaves the rows alone. -/
theorem exec_isLock {statement : TableStmt ρ χ β} (locks : statement.isLock) {answer : β}
    (ran : statement.exec spec s rows = .ok (answer, after)) : after = rows := by
  cases statement with
  | insert row => cases locks
  | lock matching => exact (exec_lock_ok.mp ran).2
  | update matching change => cases locks

/-- A statement that does not insert only moves rows. -/
theorem exec_moved (respects : Respects spec key R s rows) {statement : TableStmt ρ χ β}
    (noInsert : statement.inserts = false) {answer : β}
    (ran : statement.exec spec s rows = .ok (answer, after)) : Moved R rows after := by
  cases statement with
  | insert row => cases noInsert
  | lock matching =>
    obtain ⟨-, rfl⟩ := exec_lock_ok.mp ran
    exact moved_refl respects.refl _
  | update matching change =>
    obtain ⟨-, -, rfl⟩ := exec_update_ok.mp ran
    refine moved_updateRows respects.refl fun row _ chosen => ?_
    exact respects.moves change row (Bool.and_eq_true_iff.mp chosen).1

/-- Where a statement succeeds, its answer and the rows it leaves do not depend on the database. -/
theorem exec_agree {statement : TableStmt ρ χ β} {t : σ} {answer other : β} {rest : List ρ}
    (ran : statement.exec spec s rows = .ok (answer, after))
    (ranAcross : statement.exec spec t rows = .ok (other, rest)) : other = answer ∧ rest = after := by
  cases statement with
  | insert row =>
    obtain ⟨-, rfl⟩ := exec_insert_ok.mp ran
    obtain ⟨-, rfl⟩ := exec_insert_ok.mp ranAcross
    exact ⟨rfl, rfl⟩
  | lock matching =>
    obtain ⟨rfl, rfl⟩ := exec_lock_ok.mp ran
    obtain ⟨rfl, rfl⟩ := exec_lock_ok.mp ranAcross
    exact ⟨rfl, rfl⟩
  | update matching change =>
    obtain ⟨-, rfl, rfl⟩ := exec_update_ok.mp ran
    obtain ⟨-, rfl, rfl⟩ := exec_update_ok.mp ranAcross
    exact ⟨rfl, rfl⟩

/-- A statement succeeds in another database when that database allows the rows it leaves. -/
theorem exec_transfer {statement : TableStmt ρ χ β} {t : σ} {answer : β}
    (ran : statement.exec spec s rows = .ok (answer, after))
    (inserts : ∀ row ∈ after, spec.insertViolation s row = none → spec.insertViolation t row = none)
    (updates : ∀ change, ∀ row ∈ after, spec.updateViolation s change row = none →
      spec.updateViolation t change row = none) :
    statement.exec spec t rows = .ok (answer, after) := by
  cases statement with
  | insert row =>
    obtain ⟨allowed, rfl⟩ := exec_insert_ok.mp ran
    exact exec_insert_ok.mpr ⟨inserts row (by simp) allowed, rfl⟩
  | lock matching => exact ran
  | update matching change =>
    obtain ⟨allowed, rfl, rfl⟩ := exec_update_ok.mp ran
    refine exec_update_ok.mpr ⟨fun row member chosen => ?_, rfl, rfl⟩
    refine updates change _ (mem_updateRows.mpr ⟨row, member, ?_⟩) (allowed row member chosen)
    rw [if_pos chosen]

/-- What SET clauses neither make nor break holds of the old rows when it holds of the new ones. -/
theorem exec_forall_back {holds : ρ → Prop} {statement : TableStmt ρ χ β} {answer : β}
    (stays : ∀ change row, holds (spec.apply change row) → holds row)
    (ran : statement.exec spec s rows = .ok (answer, after)) (all : ∀ row ∈ after, holds row) :
    ∀ row ∈ rows, holds row := by
  cases statement with
  | insert row =>
    obtain ⟨-, rfl⟩ := exec_insert_ok.mp ran
    exact fun old member => all old (List.mem_append_left _ member)
  | lock matching =>
    obtain ⟨-, rfl⟩ := exec_lock_ok.mp ran
    exact all
  | update matching change =>
    obtain ⟨-, -, rfl⟩ := exec_update_ok.mp ran
    intro old member
    have moved := all _ (mem_updateRows.mpr ⟨old, member, rfl⟩)
    split at moved
    · exact stays change old moved
    · exact moved

/-- Keys stay distinct under every statement other than a delete. -/
theorem exec_nodup (keyed : Keyed spec key s rows) (statement : TableStmt ρ χ β)
    {answer : β} (ran : statement.exec spec s rows = .ok (answer, after))
    (distinct : (rows.map key).Nodup) : (after.map key).Nodup := by
  cases statement with
  | insert row =>
    obtain ⟨allowed, rfl⟩ := exec_insert_ok.mp ran
    exact nodup_append (keyed.fresh row allowed) distinct
  | lock matching =>
    obtain ⟨-, rfl⟩ := exec_lock_ok.mp ran
    exact distinct
  | update matching change =>
    obtain ⟨-, -, rfl⟩ := exec_update_ok.mp ran
    exact nodup_updateRows (keyed.sameKey change) distinct

/-- What every statement checks of the rows it writes holds of every row. -/
theorem exec_forall {valid : ρ → Prop}
    (inserted : ∀ row, spec.insertViolation s row = none → valid row)
    (updated : ∀ change row, spec.updateViolation s change row = none → valid row)
    (statement : TableStmt ρ χ β) {answer : β}
    (ran : statement.exec spec s rows = .ok (answer, after)) (hold : ∀ row ∈ rows, valid row) :
    ∀ row ∈ after, valid row := by
  cases statement with
  | insert row =>
    obtain ⟨allowed, rfl⟩ := exec_insert_ok.mp ran
    intro last member
    rcases List.mem_append.mp member with inRows | isRow
    · exact hold last inRows
    · rw [List.mem_singleton.mp isRow]
      exact inserted row allowed
  | lock matching =>
    obtain ⟨-, rfl⟩ := exec_lock_ok.mp ran
    exact hold
  | update matching change =>
    obtain ⟨allowed, -, rfl⟩ := exec_update_ok.mp ran
    intro row member
    obtain ⟨old, inRows, rfl⟩ := mem_updateRows.mp member
    by_cases chosen : spec.guard change old && matching old
    · simpa only [chosen, if_true] using updated change _ (allowed old inRows chosen)
    · simpa [chosen] using hold old inRows

/-- What inserts check and SET clauses keep holds of every row. -/
theorem exec_forall_kept {valid : ρ → Prop}
    (inserted : ∀ row, spec.insertViolation s row = none → valid row)
    (kept : ∀ change row, valid row → valid (spec.apply change row))
    (statement : TableStmt ρ χ β) {answer : β}
    (ran : statement.exec spec s rows = .ok (answer, after)) (hold : ∀ row ∈ rows, valid row) :
    ∀ row ∈ after, valid row := by
  cases statement with
  | insert row =>
    obtain ⟨allowed, rfl⟩ := exec_insert_ok.mp ran
    intro last member
    rcases List.mem_append.mp member with inRows | isRow
    · exact hold last inRows
    · rw [List.mem_singleton.mp isRow]
      exact inserted row allowed
  | lock matching =>
    obtain ⟨-, rfl⟩ := exec_lock_ok.mp ran
    exact hold
  | update matching change =>
    obtain ⟨-, -, rfl⟩ := exec_update_ok.mp ran
    intro row member
    obtain ⟨old, inRows, rfl⟩ := mem_updateRows.mp member
    split
    · exact kept change old (hold old inRows)
    · exact hold old inRows

end TableStmt

end Relational
