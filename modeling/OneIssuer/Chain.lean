import Mathlib.Data.Finset.Max
import OneIssuer.SingleUse

/-!
# The chain of a refresh family

A family is created with generation 0, and every later generation is created by the step that consumes
its predecessor. Both facts are about the whole run, because cleanup deletes generations: a family
whose generations are all still there has exactly the numbers from 0 to its last one, and all but the
last are consumed.

**What it does not establish.** How long a chain can get, and when its generations expire
(`Token.Deadlines`).
-/

set_option autoImplicit false

namespace OneIssuer

open Relational Token Store

variable {sha : Sha256} {zone : Zone} {entries : List Entry} {db : Db}

/-! ## Contiguous numbers -/

/-- Numbers that reach down to 0 without a gap are those up to the largest. -/
theorem numbers_up_to {numbers : List Int} (nonneg : ∀ k ∈ numbers, 0 ≤ k) (zero : 0 ∈ numbers)
    (down : ∀ k ∈ numbers, k ≠ 0 → k - 1 ∈ numbers) :
    ∃ n : Nat, ∀ k : Int, k ∈ numbers ↔ 0 ≤ k ∧ k ≤ n := by
  obtain ⟨top, inNumbers, isTop⟩ := numbers.toFinset.exists_max_image id ⟨0, by simpa using zero⟩
  simp only [List.mem_toFinset, id_eq] at inNumbers isTop
  refine ⟨top.toNat, fun k => ?_⟩
  rw [Int.toNat_of_nonneg (nonneg top inNumbers)]
  constructor
  · exact fun member => ⟨nonneg k member, isTop k member⟩
  · rintro ⟨fromZero, upTo⟩
    -- downwards from the largest number
    induction k, upTo using Int.leInductionDown with
    | base => exact inNumbers
    | pred m _ ih => exact down m (ih (by omega)) (by omega)

/-! ## Facts about a whole run -/

/-- Every family that was seen was seen with its generation 0. -/
theorem Run.first_seen (run : Run sha zone entries db) :
    ∀ seen ∈ states entries db, ∀ family ∈ seen.refreshTokenFamilies,
      ∃ past ∈ states entries db, ∃ generation ∈ past.refreshTokens,
        generation.familyID = family.id ∧ generation.generation = 0 := by
  induction run with
  | start =>
    intro seen isStart family member
    rw [List.mem_singleton.mp isStart] at member
    cases member
  | @step past entry ran took _ _ ih =>
    have lift {id : Uuid} : (∃ seen ∈ states past entry.before, ∃ generation ∈ seen.refreshTokens,
        generation.familyID = id ∧ generation.generation = 0) →
        ∃ seen ∈ states (entry :: past) entry.after, ∃ generation ∈ seen.refreshTokens,
          generation.familyID = id ∧ generation.generation = 0 :=
      fun ⟨seen, inPast, found⟩ => ⟨seen, List.mem_cons_of_mem _ inPast, found⟩
    intro seen inHistory family member
    rcases List.mem_cons.mp inHistory with rfl | earlier
    · rcases took.family_origin ran.sound member with ⟨old, inBefore, sameID, -⟩ | founded
      · rw [← sameID]
        exact lift (ih entry.before List.mem_cons_self old inBefore)
      · exact ⟨entry.after, List.mem_cons_self, founded.first⟩
    · exact lift (ih seen earlier family member)

/-- The predecessor of every generation that was seen was seen consumed. -/
theorem Run.predecessor_seen (run : Run sha zone entries db) :
    ∀ seen ∈ states entries db, ∀ generation ∈ seen.refreshTokens, generation.generation ≠ 0 →
      ∃ past ∈ states entries db, ∃ used ∈ past.refreshTokens,
        used.familyID = generation.familyID ∧ used.generation = generation.generation - 1 ∧
          used.consumedAt.isSome := by
  induction run with
  | start =>
    intro seen isStart generation member
    rw [List.mem_singleton.mp isStart] at member
    cases member
  | @step past entry ran took _ _ ih =>
    have lift {id : Uuid} {number : Int} : (∃ seen ∈ states past entry.before,
        ∃ used ∈ seen.refreshTokens, used.familyID = id ∧ used.generation = number ∧
          used.consumedAt.isSome) →
        ∃ seen ∈ states (entry :: past) entry.after, ∃ used ∈ seen.refreshTokens,
          used.familyID = id ∧ used.generation = number ∧ used.consumedAt.isSome :=
      fun ⟨seen, inPast, found⟩ => ⟨seen, List.mem_cons_of_mem _ inPast, found⟩
    intro seen inHistory generation member notFirst
    rcases List.mem_cons.mp inHistory with rfl | earlier
    · rcases took.generation_origin ran.sound member with ⟨old, inBefore, -, moved⟩ | begun
      · rw [moved.same] at notFirst ⊢
        exact lift (ih entry.before List.mem_cons_self old inBefore notFirst)
      · rcases begun.number with first | ⟨presented, -, sameFamily, isNext, -, used, inAfter, -,
          usedFamily, usedNumber, consumed⟩
        · exact absurd first notFirst
        · refine ⟨entry.after, List.mem_cons_self, used, inAfter, usedFamily.trans sameFamily, ?_,
            consumed⟩
          rw [usedNumber, isNext]
          lia
    · exact lift (ih seen earlier generation member notFirst)

/-- Every generation lies inside the lifetime of its family, which is there. -/
theorem Run.inside (run : Run sha zone entries db) :
    ∀ generation ∈ db.refreshTokens, ∃ family ∈ db.refreshTokenFamilies,
      family.id = generation.familyID ∧ family.createdAt ≤ generation.issuedAt ∧
        generation.expiresAt ≤ family.absoluteExpiresAt := by
  induction run with
  | start => exact fun generation member => nomatch member
  | @step past entry ran took _ _ ih =>
    intro generation member
    rcases took.generation_origin ran.sound member with ⟨old, inBefore, -, moved⟩ | begun
    · obtain ⟨family, inFamilies, isFamily, created, expires⟩ := ih old inBefore
      have isMember : generation.familyID = family.id := by
        rw [moved.same]
        exact isFamily.symm
      rcases took.evolved.familyKept family inFamilies with ⟨kept, inAfter, sameID⟩ | unreferenced
      · have continued := took.evolved.families.continues ran.sound.families.distinct inFamilies
          inAfter sameID
        refine ⟨kept, inAfter, sameID.trans isMember.symm, ?_⟩
        rw [continued.same, moved.same]
        exact ⟨created, expires⟩
      · exact absurd isMember (unreferenced.1 generation member)
    · exact begun.inside

/-! ## The chain -/

/-- Cleanup has deleted no generation of the family. -/
def Unretired (history : List Db) (db : Db) (familyID : Uuid) : Prop :=
  ∀ seen ∈ history, ∀ generation ∈ seen.refreshTokens, generation.familyID = familyID →
    ∃ kept ∈ db.refreshTokens, kept.id = generation.id

/-- The generations of a family are numbered from 0 to `n`, each number once; all but the last are
consumed, and each lies inside the lifetime of the family. -/
structure Db.Chain (db : Db) (family : RefreshTokenFamily) (n : Nat) : Prop where
  numbers : ∀ k : Int, (∃ generation ∈ db.refreshTokens, generation.familyID = family.id ∧
    generation.generation = k) ↔ 0 ≤ k ∧ k ≤ n
  distinct : ∀ first ∈ db.refreshTokens, ∀ second ∈ db.refreshTokens,
    first.familyID = family.id → second.familyID = family.id →
      first.generation = second.generation → first = second
  consumed : ∀ generation ∈ db.refreshTokens, generation.familyID = family.id →
    generation.generation < n → generation.consumedAt.isSome
  lifetimes : ∀ generation ∈ db.refreshTokens, generation.familyID = family.id →
    family.createdAt ≤ generation.issuedAt ∧ generation.issuedAt < generation.expiresAt ∧
      generation.expiresAt ≤ family.absoluteExpiresAt

/-- The CHECK constraints of a stored generation. -/
theorem generation_valid (sound : db.Sound) {generation : RefreshToken}
    (member : generation ∈ db.refreshTokens) :
    0 ≤ generation.generation ∧ generation.issuedAt < generation.expiresAt := by
  have valid := checkViolation_eq_none.mp (sound.generations.valid generation member)
  simp only [RefreshToken.checks, List.mem_cons, List.not_mem_nil, or_false, forall_eq_or_imp,
    forall_eq, Bool.and_eq_true] at valid
  exact ⟨of_decide_eq_true valid.1, of_decide_eq_true valid.2.2.1.1⟩

section Unretired

variable (run : Run sha zone entries db) {family : RefreshTokenFamily}
  (unretired : Unretired (states entries db) db family.id)
include run unretired

/-- A generation that was seen is still there, moved along. -/
theorem Run.still_there {seen : Db} (inHistory : seen ∈ states entries db) {generation : RefreshToken}
    (member : generation ∈ seen.refreshTokens) (isMember : generation.familyID = family.id) :
    ∃ kept ∈ db.refreshTokens, GenerationContinues generation kept := by
  obtain ⟨kept, inLast, sameID⟩ := unretired seen inHistory generation member isMember
  exact ⟨kept, inLast,
    (run.generations seen inHistory generation member kept inLast (Or.inl sameID.symm)).2⟩

/-- The predecessor of a generation is there, and consumed. -/
theorem Run.predecessor {generation : RefreshToken} (member : generation ∈ db.refreshTokens)
    (isMember : generation.familyID = family.id) (notFirst : generation.generation ≠ 0) :
    ∃ used ∈ db.refreshTokens, used.familyID = family.id ∧
      used.generation = generation.generation - 1 ∧ used.consumedAt.isSome := by
  obtain ⟨past, inHistory, used, inPast, sameFamily, isNumber, consumed⟩ :=
    run.predecessor_seen db List.mem_cons_self generation member notFirst
  obtain ⟨kept, inLast, moved⟩ :=
    run.still_there unretired inHistory inPast (sameFamily.trans isMember)
  refine ⟨kept, inLast, ?_, ?_, moved.consumedAt.isSome consumed⟩
  · rw [moved.same]
    exact sameFamily.trans isMember
  · rw [moved.same]
    exact isNumber

theorem Run.chain (stored : family ∈ db.refreshTokenFamilies) : ∃ n, db.Chain family n := by
  have distinct : ∀ first ∈ db.refreshTokens, ∀ second ∈ db.refreshTokens,
      first.familyID = family.id → second.familyID = family.id →
        first.generation = second.generation → first = second := by
    intro first inFirst second inSecond isFirst isSecond sameNumber
    exact eq_of_key run.sound.numbers inFirst inSecond
      (Prod.ext (isFirst.trans isSecond.symm) sameNumber)
  have numbered : ∃ n : Nat, ∀ k : Int,
      k ∈ (db.refreshTokens.filter (·.familyID == family.id)).map (·.generation) ↔
        0 ≤ k ∧ k ≤ n := by
    refine numbers_up_to ?_ ?_ ?_
    · simp only [List.mem_map, List.mem_filter]
      rintro _ ⟨generation, ⟨member, -⟩, rfl⟩
      exact (generation_valid run.sound member).1
    · obtain ⟨past, inHistory, first, inPast, isMember, isZero⟩ :=
        run.first_seen db List.mem_cons_self family stored
      obtain ⟨kept, inLast, moved⟩ := run.still_there unretired inHistory inPast isMember
      refine List.mem_map.mpr ⟨kept, List.mem_filter.mpr ⟨inLast, ?_⟩, ?_⟩
      · rw [moved.same]
        exact beq_iff_eq.mpr isMember
      · rw [moved.same]
        exact isZero
    · simp only [List.mem_map, List.mem_filter, beq_iff_eq]
      rintro _ ⟨generation, ⟨member, isMember⟩, rfl⟩ notFirst
      obtain ⟨used, inLast, sameFamily, isNumber, -⟩ :=
        run.predecessor unretired member isMember notFirst
      exact ⟨used, ⟨inLast, sameFamily⟩, isNumber⟩
  obtain ⟨n, isNumber⟩ := numbered
  simp only [List.mem_map, List.mem_filter, beq_iff_eq, and_assoc] at isNumber
  refine ⟨n, isNumber, distinct, ?_, ?_⟩
  · intro generation member isMember below
    have nonneg := (generation_valid run.sound member).1
    -- the successor is there, so this generation is the predecessor it consumed
    obtain ⟨next, inNext, isNext, isSuccessor⟩ :=
      (isNumber (generation.generation + 1)).mpr ⟨by omega, by omega⟩
    obtain ⟨used, inUsed, isUsed, usedNumber, consumed⟩ :=
      run.predecessor unretired inNext isNext (by omega)
    rw [distinct generation member used inUsed isMember isUsed (by omega)]
    exact consumed
  · intro generation member isMember
    obtain ⟨own, inFamilies, isOwn, created, expires⟩ := run.inside generation member
    obtain rfl := run.sound.families.unique inFamilies stored (isOwn.trans isMember)
    exact ⟨created, (generation_valid run.sound member).2, expires⟩

end Unretired

/-- In every reachable state, a family that cleanup has not started to retire has an unbroken chain
of generations, each the source of at most one access token and only after it was consumed, and its
own columns are those it was created with. So at most one refresh gets tokens for a digest. -/
theorem family_chain (run : Run sha zone entries db) :
    (∀ family ∈ db.refreshTokenFamilies, Unretired (states entries db) db family.id →
      (∃ n, db.Chain family n) ∧
      (∀ generation ∈ db.refreshTokens, generation.familyID = family.id →
        (∀ first ∈ states entries db, ∀ second ∈ states entries db,
          ∀ token ∈ first.accessTokens, ∀ other ∈ second.accessTokens,
            token.sourceRefreshTokenID = some generation.id →
            other.sourceRefreshTokenID = some generation.id → token.id = other.id) ∧
        ∀ seen ∈ states entries db, ∀ token ∈ seen.accessTokens,
          token.sourceRefreshTokenID = some generation.id → generation.consumedAt.isSome) ∧
      ∀ seen ∈ states entries db, ∀ old ∈ seen.refreshTokenFamilies, old.id = family.id →
        family.userID = old.userID ∧ family.clientID = old.clientID ∧
          family.consentGrantID = old.consentGrantID ∧
          family.sessionBindingID = old.sessionBindingID ∧ family.scopes = old.scopes ∧
          family.absoluteExpiresAt = old.absoluteExpiresAt) ∧
    ∀ digest, entries.Pairwise fun later earlier =>
      ¬ (later.Refreshes digest ∧ earlier.Refreshes digest) := by
  obtain ⟨namesUsed, namedOnce⟩ := run.named
    (fun _ took sound => took.accesses_useGenerations sound)
    (fun _ _ past => past.generations_stayUsed) rfl
  constructor
  · intro family stored unretired
    refine ⟨run.chain unretired stored, ?_, ?_⟩
    · intro generation member _
      constructor
      · intro first inFirst second inSecond token inTokens other inOthers named alsoNamed
        exact namedOnce first inFirst second inSecond token inTokens other inOthers generation.id
          named alsoNamed
      · intro seen inHistory token inTokens named
        obtain ⟨past, inPast, used, inUsed, isGeneration, consumed⟩ :=
          namesUsed seen inHistory token inTokens generation.id named
        exact run.generations_stayUsed past inPast used inUsed consumed generation member
          isGeneration.symm
    · intro seen inHistory old member sameID
      have moved := (run.families seen inHistory old member family stored (Or.inl sameID)).2
      rw [moved.same]
      exact ⟨rfl, rfl, rfl, rfl, rfl, rfl⟩
  · exact fun digest => run.pairwise_not
      (fun _ took sound refreshes => refreshes.usesUp took sound)
      fun _ _ past => past.tokenHashes_stayUsed

theorem family_chain_sample :
    ∃ family ∈ Sample.refreshed.after.refreshTokenFamilies, family.id = 10 ∧
      ∃ n, Sample.refreshed.after.Chain family n := by
  obtain ⟨⟨family, stored, isFamily⟩, unretired⟩ :
      (∃ family ∈ Sample.refreshed.after.refreshTokenFamilies, family.id = 10) ∧
        ∀ seen ∈ states (Sample.refreshed :: Sample.exchanged :: Sample.flow)
          Sample.refreshed.after, ∀ generation ∈ seen.refreshTokens, generation.familyID = 10 →
            ∃ kept ∈ Sample.refreshed.after.refreshTokens, kept.id = generation.id := by
    decide +kernel
  exact ⟨family, stored, isFamily,
    ((family_chain Sample.refreshed_run).1 family stored (isFamily ▸ unretired)).1⟩

end OneIssuer
