import OneIssuer.Relational.Table

/-!
# Rows across the states of a run

A run passes through a list of states. When every row a step adds has an identifier and a digest
that no earlier state contains, a row can be followed through the run: a row of the last state that
shares its identifier or its digest with a row of any earlier state is that row, moved along the
table's relation (`Descends`). This rules out that a deleted row comes back under the same name.
-/

set_option autoImplicit false

namespace Relational

variable {σ ρ κ δ : Type}

/-- `row` has an identifier and a digest that no row of `rows` has. -/
def Unseen (id : ρ → κ) (digest : ρ → δ) (rows : List ρ) (row : ρ) : Prop :=
  ∀ old ∈ rows, id old ≠ id row ∧ digest old ≠ digest row

/-- Every row of `after` is a row of `before`, by its identifier, or is new to the whole history. -/
def FreshTable (id : ρ → κ) (digest : ρ → δ) (table : σ → List ρ) (history : List σ)
    (before after : σ) : Prop :=
  ∀ row ∈ table after, (∃ old ∈ table before, id old = id row) ∨
    ∀ seen ∈ history, Unseen id digest (table seen) row

instance [DecidableEq κ] [DecidableEq δ] (id : ρ → κ) (digest : ρ → δ) (rows : List ρ) (row : ρ) :
    Decidable (Unseen id digest rows row) :=
  inferInstanceAs (Decidable (∀ old ∈ rows, id old ≠ id row ∧ digest old ≠ digest row))

instance [DecidableEq κ] [DecidableEq δ] (id : ρ → κ) (digest : ρ → δ) (table : σ → List ρ)
    (history : List σ) (before after : σ) :
    Decidable (FreshTable id digest table history before after) :=
  inferInstanceAs (Decidable (∀ row ∈ table after, (∃ old ∈ table before, id old = id row) ∨
    ∀ seen ∈ history, Unseen id digest (table seen) row))

/-- A row of `last` that has the identifier or the digest of a row seen before continues it. -/
def Descends (id : ρ → κ) (digest : ρ → δ) (R : ρ → ρ → Prop) (table : σ → List ρ)
    (history : List σ) (last : σ) : Prop :=
  ∀ seen ∈ history, ∀ old ∈ table seen, ∀ row ∈ table last,
    id old = id row ∨ digest old = digest row → id old = id row ∧ R old row

variable {id : ρ → κ} {digest : ρ → δ} {R : ρ → ρ → Prop} {table : σ → List ρ}

/-- Within one state, identifier and digest name a row. -/
theorem descends_self (refl : ∀ row, R row row) {last : σ}
    (distinct : ((table last).map id).Nodup) (digests : ((table last).map digest).Nodup) :
    Descends id digest R table [last] last := by
  intro seen isLast old inSeen row inLast named
  rw [List.mem_singleton.mp isLast] at inSeen
  have same : old = row := by
    rcases named with sameID | sameDigest
    · exact eq_of_key distinct inSeen inLast sameID
    · exact eq_of_key digests inSeen inLast sameDigest
  exact ⟨congrArg id same, same ▸ refl old⟩

/-- One step of a run. -/
theorem Descends.step (refl : ∀ row, R row row) (trans : ∀ a b c, R a b → R b c → R a c)
    (sameDigest : ∀ old row, R old row → digest row = digest old) {history : List σ}
    {before after : σ} (descends : Descends id digest R table history before)
    (evolves : Evolves id R (table before) (table after))
    (fresh : FreshTable id digest table history before after)
    (distinct : ((table before).map id).Nodup) (distinctAfter : ((table after).map id).Nodup)
    (digests : ((table after).map digest).Nodup) :
    Descends id digest R table (after :: history) after := by
  intro seen inHistory old inSeen row inAfter named
  rcases List.mem_cons.mp inHistory with rfl | earlier
  · exact descends_self refl distinctAfter digests _ List.mem_cons_self old inSeen row inAfter named
  · rcases fresh row inAfter with ⟨origin, inBefore, sameID⟩ | unseen
    · have moved : R origin row := evolves.continues distinct inBefore inAfter sameID.symm
      have namedBefore : id old = id origin ∨ digest old = digest origin := by
        rw [sameID, ← sameDigest origin row moved]
        exact named
      obtain ⟨originID, related⟩ := descends seen earlier old inSeen origin inBefore namedBefore
      exact ⟨originID.trans sameID, trans _ _ _ related moved⟩
    · have new := unseen seen earlier old inSeen
      rcases named with sameID | same
      · exact absurd sameID new.1
      · exact absurd same new.2

/-! ## Sources that are used up

A row may name a source, a row of another table, which the step that creates the row uses up. When no
source becomes unused again, at most one row ever names it. -/

section Sources

variable {τ : Type} {link : ρ → Option δ} {key : τ → δ} {used : τ → Prop} {source : σ → List τ}

/-- Over the whole history at most one row names a source. -/
def NamedOnce (id : ρ → κ) (link : ρ → Option δ) (table : σ → List ρ) (history : List σ) : Prop :=
  ∀ a ∈ history, ∀ b ∈ history, ∀ x ∈ table a, ∀ y ∈ table b, ∀ k,
    link x = some k → link y = some k → id x = id y

/-- Every source that a row names was seen used. -/
def NamesUsed (link : ρ → Option δ) (table : σ → List ρ) (key : τ → δ) (used : τ → Prop)
    (source : σ → List τ) (history : List σ) : Prop :=
  ∀ seen ∈ history, ∀ row ∈ table seen, ∀ k, link row = some k →
    ∃ later ∈ history, ∃ s ∈ source later, key s = k ∧ used s

/-- In one step the source `k` is used up. -/
def UsedUp (key : τ → δ) (used : τ → Prop) (source : σ → List τ) (before after : σ) (k : δ) : Prop :=
  (∃ s ∈ source before, key s = k ∧ ¬ used s) ∧ ∃ s ∈ source after, key s = k ∧ used s

/-- What one step does: a row is an old one that at most forgot its source, or the one row that the
step creates, which uses its source up. -/
def UsesUp (id : ρ → κ) (link : ρ → Option δ) (table : σ → List ρ) (key : τ → δ) (used : τ → Prop)
    (source : σ → List τ) (before after : σ) : Prop :=
  ∃ created, ∀ row ∈ table after,
    (∃ old ∈ table before, id old = id row ∧ OnlyCleared (link old) (link row)) ∨
      id row = created ∧ ∀ k, link row = some k → UsedUp key used source before after k

/-- A step that creates no row. -/
theorem usesUp_of_old [Inhabited κ] {before after : σ}
    (old : ∀ row ∈ table after, ∃ old ∈ table before,
      id old = id row ∧ OnlyCleared (link old) (link row)) :
    UsesUp id link table key used source before after :=
  ⟨default, fun row member => Or.inl (old row member)⟩

variable {history : List σ} {before after : σ}

theorem NamesUsed.step (named : NamesUsed link table key used source history)
    (inHistory : before ∈ history) (uses : UsesUp id link table key used source before after) :
    NamesUsed link table key used source (after :: history) := by
  obtain ⟨created, uses⟩ := uses
  have lift {k : δ} : (∃ later ∈ history, ∃ s ∈ source later, key s = k ∧ used s) →
      ∃ later ∈ after :: history, ∃ s ∈ source later, key s = k ∧ used s :=
    fun ⟨later, inPast, found⟩ => ⟨later, List.mem_cons_of_mem _ inPast, found⟩
  intro seen inStates row member k isNamed
  rcases List.mem_cons.mp inStates with rfl | earlier
  · rcases uses row member with ⟨old, inBefore, -, cleared⟩ | ⟨-, usesUp⟩
    · rcases cleared with same | forgotten
      · exact lift (named before inHistory old inBefore k (same ▸ isNamed))
      · rw [forgotten] at isNamed
        cases isNamed
    · exact ⟨seen, List.mem_cons_self, (usesUp k isNamed).2⟩
  · exact lift (named seen earlier row member k isNamed)

/-- A row of the new history that names `k` is an old row, or the created one. -/
theorem UsesUp.trace {created : κ} {k : δ} (inHistory : before ∈ history)
    (uses : ∀ row ∈ table after,
      (∃ old ∈ table before, id old = id row ∧ OnlyCleared (link old) (link row)) ∨
        id row = created ∧ ∀ k, link row = some k → UsedUp key used source before after k)
    {seen : σ} (inStates : seen ∈ after :: history) {row : ρ} (member : row ∈ table seen)
    (isNamed : link row = some k) :
    (∃ past ∈ history, ∃ old ∈ table past, id old = id row ∧ link old = some k) ∨
      id row = created ∧ UsedUp key used source before after k := by
  rcases List.mem_cons.mp inStates with rfl | earlier
  · rcases uses row member with ⟨old, inBefore, sameID, cleared⟩ | ⟨isCreated, usesUp⟩
    · rcases cleared with same | forgotten
      · exact Or.inl ⟨before, inHistory, old, inBefore, sameID, same ▸ isNamed⟩
      · rw [forgotten] at isNamed
        cases isNamed
    · exact Or.inr ⟨isCreated, usesUp k isNamed⟩
  · exact Or.inl ⟨seen, earlier, row, member, rfl, isNamed⟩

/-- One step keeps sources named once, when a used source stays used. -/
theorem NamedOnce.step (once : NamedOnce id link table history)
    (named : NamesUsed link table key used source history)
    (stays : ∀ seen ∈ history, ∀ s ∈ source seen, used s →
      ∀ t ∈ source before, key t = key s → used t)
    (inHistory : before ∈ history) (uses : UsesUp id link table key used source before after) :
    NamedOnce id link table (after :: history) := by
  obtain ⟨created, uses⟩ := uses
  -- a source that is used up only now was never named before
  have unnamed {k : δ} (usedUp : UsedUp key used source before after k) :
      ¬ ∃ past ∈ history, ∃ old ∈ table past, link old = some k := by
    rintro ⟨past, inPast, old, member, isNamed⟩
    obtain ⟨later, inLater, s, inSource, isKey, isUsed⟩ := named past inPast old member k isNamed
    obtain ⟨⟨t, inBefore, sameKey, unused⟩, -⟩ := usedUp
    exact unused (stays later inLater s inSource isUsed t inBefore (sameKey.trans isKey.symm))
  intro a inA b inB x inX y inY k namesX namesY
  rcases UsesUp.trace inHistory uses inA inX namesX with
    ⟨past, inPast, old, member, sameID, isNamed⟩ | ⟨isCreated, usedUp⟩
  · rcases UsesUp.trace inHistory uses inB inY namesY with
      ⟨other, inOther, older, inTable, sameOther, isOther⟩ | ⟨-, usedUp⟩
    · rw [← sameID, ← sameOther]
      exact once past inPast other inOther old member older inTable k isNamed isOther
    · exact absurd ⟨past, inPast, old, member, isNamed⟩ (unnamed usedUp)
  · rcases UsesUp.trace inHistory uses inB inY namesY with
      ⟨other, inOther, older, inTable, -, isOther⟩ | ⟨alsoCreated, -⟩
    · exact absurd ⟨other, inOther, older, inTable, isOther⟩ (unnamed usedUp)
    · rw [isCreated, alsoCreated]

end Sources

end Relational
