import Mathlib.Data.List.Find
import OneIssuer.Relational.Table

/-!
# Bounded batches

A cleanup repeats a bounded batch until a batch is not full. `drain` is the loop; it stops at the first
error and counts what the batches before it took. `drain_ends` is the rule for it: when every batch moves
some of what is left into the count, and a batch that is not full leaves nothing, then the loop ends, its
total is what was left at the start, and its last state is the one that the start leads to.

The second part is about one batch of one table. What a batch takes and what it leaves make up the rows
that were eligible (`countP_batch`), and the rows that were not eligible stay (`filter_batch`). `Takes`
collects what a loop needs of it.
-/

set_option autoImplicit false

namespace Relational

/-! ## The loop -/

section Drain

variable {σ ε : Type}

/-- How a loop ended: what it counted, its error, and the state it left. -/
structure Drained (σ ε : Type) where
  total : Nat
  error : Option ε
  state : σ

/-- Repeats a batch until it is not full. A batch answers how much it took and whether it was full; the
loop has no answer when the fuel runs out. -/
def drain (batch : σ → Except ε (Nat × Bool × σ)) : Nat → Nat → σ → Option (Drained σ ε)
  | 0, _, _ => none
  | fuel + 1, total, s =>
    match batch s with
    | .error error => some ⟨total, some error, s⟩
    | .ok (count, full, t) =>
      if full then drain batch fuel (total + count) t else some ⟨total + count, none, t⟩

/-- What a batch does to the part that is `left` to take and to the state that the loop `leaves`. -/
structure Drains (batch : σ → Except ε (Nat × Bool × σ)) (holds : σ → Prop) (left : σ → Nat)
    (leaves : σ → σ → Prop) : Prop where
  keeps : ∀ {s count full t}, holds s → batch s = .ok (count, full, t) → holds t
  takes : ∀ {s count full t}, holds s → batch s = .ok (count, full, t) → left s = count + left t
  leads : ∀ {s count full t}, holds s → batch s = .ok (count, full, t) → ∀ u, leaves t u → leaves s u
  moves : ∀ {s count t}, holds s → batch s = .ok (count, true, t) → 0 < count
  ends : ∀ {s count t}, holds s → batch s = .ok (count, false, t) → left t = 0 ∧ leaves t t

variable {batch : σ → Except ε (Nat × Bool × σ)} {holds : σ → Prop} {left : σ → Nat}
  {leaves : σ → σ → Prop}

theorem drain_ends_from (drains : Drains batch holds left leaves) :
    ∀ (fuel total : Nat) (s : σ), holds s → left s < fuel →
      ∃ outcome, drain batch fuel total s = some outcome ∧ holds outcome.state ∧
        (outcome.error = none →
          outcome.total = total + left s ∧ left outcome.state = 0 ∧ leaves s outcome.state)
  | 0, _, _, _, enough => absurd enough (Nat.not_lt_zero _)
  | fuel + 1, total, s, held, enough => by
    rw [drain]
    cases ran : batch s with
    | error error => exact ⟨_, rfl, held, nofun⟩
    | ok answer =>
      obtain ⟨count, full, t⟩ := answer
      have takes := drains.takes held ran
      have kept := drains.keeps held ran
      have leads := drains.leads held ran
      cases full with
      | false =>
        obtain ⟨nothing, leaves⟩ := drains.ends held ran
        refine ⟨_, rfl, kept, fun _ => ⟨?_, nothing, leads t leaves⟩⟩
        simp only
        omega
      | true =>
        have moved := drains.moves held ran
        obtain ⟨outcome, ended, heldLast, spec⟩ :=
          drain_ends_from drains fuel (total + count) t kept (by omega)
        refine ⟨outcome, ended, heldLast, fun fine => ?_⟩
        obtain ⟨isTotal, nothing, leavesLast⟩ := spec fine
        exact ⟨by omega, nothing, leads _ leavesLast⟩

/-- The loop ends. Without an error its total is what was left, and nothing is left after it. -/
theorem drain_ends (drains : Drains batch holds left leaves) {s : σ} (held : holds s) :
    ∃ outcome, drain batch (left s + 1) 0 s = some outcome ∧ holds outcome.state ∧
      (outcome.error = none →
        outcome.total = left s ∧ left outcome.state = 0 ∧ leaves s outcome.state) := by
  obtain ⟨outcome, ended, heldLast, spec⟩ := drain_ends_from drains _ 0 s held (Nat.lt_succ_self _)
  refine ⟨outcome, ended, heldLast, fun fine => ?_⟩
  obtain ⟨isTotal, rest⟩ := spec fine
  exact ⟨by omega, rest⟩

end Drain

/-! ## One batch of one table -/

section Batch

variable {ρ κ : Type} [BEq κ] [LawfulBEq κ] {key : ρ → κ} {eligible : ρ → Bool}
  {order : ρ → ρ → Bool} {limit : Nat} {rows : List ρ}

/-- The rows without the ones that were taken. -/
def untaken (key : ρ → κ) (taken rows : List ρ) : List ρ :=
  rows.filter fun row => !(taken.any (key · == key row))

omit [LawfulBEq κ] in
theorem mem_untaken {taken : List ρ} {row : ρ} :
    row ∈ untaken key taken rows ↔ row ∈ rows ∧ ∀ other ∈ taken, (key other == key row) = false := by
  simp [untaken]

/-- A row that was not taken is found as before. -/
theorem find?_untaken {taken : List ρ} {wanted : κ} (free : ∀ row ∈ taken, key row ≠ wanted) :
    (untaken key taken rows).find? (key · == wanted) = rows.find? (key · == wanted) := by
  simp only [untaken, List.find?_filter]
  refine List.find?_congr fun row _ => ?_
  cases isWanted : key row == wanted with
  | false => simp
  | true =>
    simp only [and_true, decide_eq_true_eq, Bool.not_eq_true', List.any_eq_false]
    intro other inTaken sameKey
    rw [beq_iff_eq] at isWanted sameKey
    exact free other inTaken (sameKey.trans isWanted)

/-- A batch that skips nothing takes a beginning of the eligible rows, in order. -/
theorem batch_eq_take :
    batch eligible (fun _ => false) order limit rows =
      ((rows.filter eligible).insertionSort (fun a b => order a b)).take limit := by
  simp [batch]

/-- The rows that are not eligible are not taken. -/
theorem filter_batch (distinct : (rows.map key).Nodup) :
    (untaken key (batch eligible (fun _ => false) order limit rows) rows).filter (!eligible ·) =
      rows.filter (!eligible ·) := by
  rw [untaken, List.filter_filter]
  refine List.filter_congr fun row member => ?_
  cases isEligible : eligible row with
  | true => rfl
  | false =>
    simp only [Bool.not_false, Bool.true_and, Bool.not_eq_true', List.any_eq_false, beq_iff_eq]
    intro taken inBatch sameKey
    obtain ⟨inRows, wasEligible⟩ := mem_batch inBatch
    rw [eq_of_key distinct inRows member sameKey, isEligible] at wasEligible
    cases wasEligible

/-- What was eligible is taken or left. -/
theorem countP_batch (distinct : (rows.map key).Nodup) :
    rows.countP eligible = (batch eligible (fun _ => false) order limit rows).length +
      (untaken key (batch eligible (fun _ => false) order limit rows) rows).countP eligible := by
  have sorted := List.perm_insertionSort (fun a b => order a b) (rows.filter eligible)
  rw [batch_eq_take]
  generalize (rows.filter eligible).insertionSort (fun a b => order a b) = ordered at sorted ⊢
  have keys : (ordered.map key).Nodup := by
    refine (sorted.map key).nodup_iff.mpr ?_
    exact distinct.sublist (List.filter_sublist.map key)
  rw [← List.take_append_drop limit ordered, List.map_append, List.nodup_append] at keys
  -- The rows that are left are the ones after the limit.
  have rest : (untaken key (ordered.take limit) rows).countP eligible = (ordered.drop limit).length := by
    have split : (untaken key (ordered.take limit) rows).countP eligible =
        (rows.filter eligible).countP fun row => !((ordered.take limit).any (key · == key row)) := by
      rw [untaken, List.countP_filter, List.countP_filter]
      exact List.countP_congr fun row _ => by rw [Bool.and_comm]
    rw [split, ← sorted.countP_eq]
    nth_rewrite 2 [← List.take_append_drop limit ordered]
    rw [List.countP_append]
    have none : (ordered.take limit).countP
        (fun row => !((ordered.take limit).any (key · == key row))) = 0 := by
      rw [List.countP_eq_zero]
      intro row taken
      simp only [Bool.not_eq_true', Bool.not_eq_false, List.any_eq_true]
      exact ⟨row, taken, beq_self_eq_true _⟩
    have all : (ordered.drop limit).countP
        (fun row => !((ordered.take limit).any (key · == key row))) = (ordered.drop limit).length := by
      rw [List.countP_eq_length]
      intro row left
      simp only [Bool.not_eq_true', List.any_eq_false, beq_iff_eq]
      intro taken inTaken sameKey
      exact keys.2.2 _ (List.mem_map_of_mem inTaken) _ (List.mem_map_of_mem left) sameKey
    rw [none, all, Nat.zero_add]
  rw [rest, ← List.length_append, List.take_append_drop, sorted.length_eq, List.countP_eq_length_filter]

/-- A batch that is not full leaves the rows that are not eligible. -/
theorem untaken_of_short (distinct : (rows.map key).Nodup)
    (short : (batch eligible (fun _ => false) order limit rows).length < limit) :
    untaken key (batch eligible (fun _ => false) order limit rows) rows = rows.filter (!eligible ·) := by
  rw [← filter_batch distinct]
  refine (List.filter_eq_self.mpr fun row member => ?_).symm
  obtain ⟨inRows, free⟩ := mem_untaken.mp member
  rw [Bool.not_eq_true']
  by_contra isEligible
  have taken := mem_batch_of_short short inRows (by simpa using isEligible) rfl
  have apart := free row taken
  rw [beq_self_eq_true] at apart
  cases apart

/-- The key of an eligible row is the key of a row that was taken or of an eligible row that was left. -/
theorem any_batch (wanted : κ) :
    (rows.filter eligible).any (key · == wanted) =
      ((batch eligible (fun _ => false) order limit rows).any (key · == wanted) ||
        ((untaken key (batch eligible (fun _ => false) order limit rows) rows).filter eligible).any
          (key · == wanted)) := by
  rw [Bool.eq_iff_iff, Bool.or_eq_true]
  simp only [List.any_eq_true, List.mem_filter, beq_iff_eq, mem_untaken, beq_eq_false_iff_ne]
  constructor
  · rintro ⟨row, ⟨member, isEligible⟩, rfl⟩
    by_cases taken : ∃ other ∈ batch eligible (fun _ => false) order limit rows, key other = key row
    · exact .inl taken
    · refine .inr ⟨row, ⟨⟨member, fun other inBatch sameKey => taken ⟨other, inBatch, sameKey⟩⟩,
        isEligible⟩, rfl⟩
  · rintro (⟨row, inBatch, rfl⟩ | ⟨row, ⟨⟨member, -⟩, isEligible⟩, rfl⟩)
    · exact ⟨row, mem_batch inBatch, rfl⟩
    · exact ⟨row, ⟨member, isEligible⟩, rfl⟩

/-- What a bounded batch did to a table: the rows it took, and the rest. -/
structure Takes (key : ρ → κ) (eligible : ρ → Bool) (limit : Nat) (rows taken rest : List ρ) : Prop where
  distinct : (rest.map key).Nodup
  counts : rows.countP eligible = taken.length + rest.countP eligible
  keeps : rest.filter (!eligible ·) = rows.filter (!eligible ·)
  short : taken.length < limit → rest = rows.filter (!eligible ·)
  named : ∀ wanted, (rows.filter eligible).any (key · == wanted) =
    (taken.any (key · == wanted) || (rest.filter eligible).any (key · == wanted))

theorem takes_batch (distinct : (rows.map key).Nodup) :
    Takes key eligible limit rows (batch eligible (fun _ => false) order limit rows)
      (untaken key (batch eligible (fun _ => false) order limit rows) rows) where
  distinct := nodup_filter _ distinct
  counts := countP_batch distinct
  keeps := filter_batch distinct
  short := untaken_of_short distinct
  named := any_batch

omit [LawfulBEq κ] in
/-- A batch that is not full leaves no eligible row. -/
theorem Takes.nothing {taken rest : List ρ} (takes : Takes key eligible limit rows taken rest)
    (short : taken.length < limit) :
    rest.countP eligible = 0 ∧ rest.filter (!eligible ·) = rest ∧ rest.filter eligible = [] := by
  have free : ∀ row ∈ rest, eligible row = false := by
    intro row member
    rw [takes.short short] at member
    simpa using (List.mem_filter.mp member).2
  refine ⟨?_, ?_, ?_⟩
  · rw [List.countP_eq_zero]
    exact fun row member => by simp [free row member]
  · rw [List.filter_eq_self]
    exact fun row member => by simp [free row member]
  · rw [List.filter_eq_nil_iff]
    exact fun row member => by simp [free row member]

omit [LawfulBEq κ] in
/-- Counted by a wider condition, a batch takes the same rows. -/
theorem Takes.counts_wider {taken rest : List ρ} (takes : Takes key eligible limit rows taken rest)
    {wide : ρ → Bool} (wider : ∀ row, eligible row → wide row) :
    rows.countP wide = taken.length + rest.countP wide := by
  have parts (list : List ρ) :
      list.countP wide = list.countP eligible + (list.filter (!eligible ·)).countP wide := by
    induction list with
    | nil => rfl
    | cons row list ih =>
      cases isEligible : eligible row with
      | true =>
        rw [List.countP_cons, List.countP_cons, List.filter_cons_of_neg (by simp [isEligible]), ih]
        simp only [isEligible, wider row isEligible, if_true]
        omega
      | false =>
        rw [List.countP_cons, List.countP_cons, List.filter_cons_of_pos (by simp [isEligible]), ih,
          List.countP_cons]
        simp only [isEligible, Bool.false_eq_true, if_false]
        omega
  rw [parts rows, parts rest, takes.counts, takes.keeps, Nat.add_assoc]

omit [LawfulBEq κ] in
/-- The rows outside a wider condition stay. -/
theorem Takes.keeps_wider {taken rest : List ρ} (takes : Takes key eligible limit rows taken rest)
    {wide : ρ → Bool} (wider : ∀ row, eligible row → wide row) :
    rest.filter (!wide ·) = rows.filter (!wide ·) := by
  have nested (list : List ρ) : list.filter (!wide ·) = (list.filter (!eligible ·)).filter (!wide ·) := by
    rw [List.filter_filter]
    refine List.filter_congr fun row _ => ?_
    cases isEligible : eligible row with
    | true => simp [wider row isEligible]
    | false => simp
  rw [nested rest, takes.keeps, ← nested rows]

/-- Clearing twice is clearing once. -/
theorem updateRows_updateRows {ρ : Type} {first second : ρ → Bool} {set : ρ → ρ} {rows : List ρ}
    (cleared : ∀ row ∈ rows, first row → second (set row) = false) :
    updateRows second set (updateRows first set rows) =
      updateRows (fun row => first row || second row) set rows := by
  rw [updateRows, updateRows, List.map_map]
  refine List.map_congr_left fun row member => ?_
  cases isFirst : first row with
  | true => simp [isFirst, cleared row member isFirst]
  | false => simp [isFirst]

omit [LawfulBEq κ] in
/-- The references to the rows that are taken, then to the ones that are left, are all cleared. -/
theorem Takes.clears {taken rest : List ρ} (takes : Takes key eligible limit rows taken rest)
    {τ : Type} (reference : τ → Option κ) (clear : τ → τ) (cleared : ∀ row, reference (clear row) = none)
    (others : List τ) :
    updateRows (fun row => (reference row).any fun wanted => (rest.filter eligible).any (key · == wanted))
        clear (updateRows (fun row => (reference row).any fun wanted => taken.any (key · == wanted)) clear
          others) =
      updateRows (fun row => (reference row).any fun wanted => (rows.filter eligible).any (key · == wanted))
        clear others := by
  rw [updateRows_updateRows fun row _ _ => by rw [cleared]; rfl]
  refine List.map_congr_left fun row _ => ?_
  have same : ((reference row).any (fun wanted => taken.any (key · == wanted)) ||
      (reference row).any fun wanted => (rest.filter eligible).any (key · == wanted)) =
      (reference row).any fun wanted => (rows.filter eligible).any (key · == wanted) := by
    cases reference row with
    | none => rfl
    | some wanted => exact (takes.named wanted).symm
  simp only [same]

end Batch

/-- A filter and a change that the filter does not see. -/
theorem filter_updateRows_comm {ρ : Type} {matching kept : ρ → Bool} {set : ρ → ρ} {rows : List ρ}
    (same : ∀ row, kept (set row) = kept row) :
    (updateRows matching set rows).filter kept = updateRows matching set (rows.filter kept) := by
  rw [updateRows, updateRows, List.filter_map]
  congr 1
  refine List.filter_congr fun row _ => ?_
  simp only [Function.comp_apply]
  split
  · exact same row
  · rfl

theorem countP_updateRows {ρ : Type} {matching counted : ρ → Bool} {set : ρ → ρ} {rows : List ρ}
    (same : ∀ row, counted (set row) = counted row) :
    (updateRows matching set rows).countP counted = rows.countP counted := by
  rw [List.countP_eq_length_filter, filter_updateRows_comm same, updateRows, List.length_map,
    List.countP_eq_length_filter]

/-- A change of no row. -/
theorem updateRows_none {ρ : Type} {matching : ρ → Bool} {set : ρ → ρ} {rows : List ρ}
    (free : ∀ row ∈ rows, matching row = false) : updateRows matching set rows = rows := by
  rw [updateRows]
  refine (List.map_congr_left fun row member => ?_).trans (List.map_id rows)
  simp [free row member]

end Relational
