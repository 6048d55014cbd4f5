import OneIssuer.Runs
import OneIssuer.Store.AuthoritySteps

/-!
# Calls, run

The inversions of the store operations, lifted to the calls of a run. A call that answered without an
error committed its body; a refresh and a revocation looked their rows up in an earlier state.
-/

set_option autoImplicit false

namespace OneIssuer

open Relational Token Store

variable {sha : Sha256} {db after : Db} {outcome : Except StoreError Answer}

theorem quietly_ok {α : Type} {body : Tx α} :
    (quietly body).run exec db = .ok (outcome, after) ↔
      (∃ value, body.run exec db = .ok (value, after)) ∧ outcome = .ok .done := by
  simp only [quietly, Program.run_bind_ok, Program.run_pure_ok, Prod.mk.injEq]
  constructor
  · rintro ⟨value, _, ran, rfl, rfl⟩
    exact ⟨⟨value, ran⟩, rfl⟩
  · rintro ⟨⟨value, ran⟩, rfl⟩
    exact ⟨value, after, ran, rfl, rfl⟩

theorem withTokens_ok {body : Tx (Except StoreError Response)} :
    (withTokens body).run exec db = .ok (outcome, after) ↔
      ∃ result, body.run exec db = .ok (result, after) ∧ outcome = result.map Answer.tokens := by
  simp only [withTokens, Program.run_bind_ok, Program.run_pure_ok, Prod.mk.injEq]
  constructor
  · rintro ⟨result, _, ran, rfl, rfl⟩
    exact ⟨result, ran, rfl⟩
  · rintro ⟨result, ran, rfl⟩
    exact ⟨result, after, ran, rfl, rfl⟩

/-- A call that answered without an error ran its body to the end. -/
theorem Entry.Ran.of_ok {entry : Entry} (took : entry.Ran sha) {answer : Answer}
    (answered : entry.outcome = .ok answer) :
    (entry.call.body sha).run exec entry.before = .ok (.ok answer, entry.after) := by
  rcases took.cases with ran | ⟨⟨error, failed⟩, -⟩
  · rw [← answered]
    exact ran
  · rw [answered] at failed
    cases failed

/-- A committed exchange ended in one of its two ways. -/
theorem exchange_ran (sound : db.Sound) {input : ExchangeInput} {mint : MintFunc}
    (ran : ((Call.exchangeAuthorizationCode input mint).body sha).run exec db =
      .ok (outcome, after)) :
    ∃ result, ExchangeEnd sha input mint db result after ∧ outcome = result.map Answer.tokens := by
  obtain ⟨result, exchanged, same⟩ := withTokens_ok.mp ran
  exact ⟨result, exchangeAuthorizationCode_ok sound exchanged, same⟩

/-- The rows a refresh looked up: a generation with the presented digest and its family. -/
theorem refreshCandidate_some {hash : Bytes} {seenGeneration seenFamily : Db}
    {candidate : RefreshToken} {family : RefreshTokenFamily}
    (found : refreshCandidate hash seenGeneration seenFamily = some (candidate, family)) :
    (candidate ∈ seenGeneration.refreshTokens ∧ candidate.tokenHash = hash) ∧
      family ∈ seenFamily.refreshTokenFamilies ∧ family.id = candidate.familyID := by
  obtain ⟨generation, isGeneration, rest⟩ := Option.bind_eq_some_iff.mp found
  obtain ⟨row, isRow, same⟩ := Option.map_eq_some_iff.mp rest
  cases same
  have hasHash := List.find?_some isGeneration
  have hasID := List.find?_some isRow
  exact ⟨⟨List.mem_of_find?_eq_some isGeneration, beq_iff_eq.mp hasHash⟩,
    List.mem_of_find?_eq_some isRow, beq_iff_eq.mp hasID⟩

/-- A committed refresh ended in one of its two ways. -/
theorem refresh_ran (sound : db.Sound) {input : RefreshInput} {mint : RefreshMintFunc}
    {seenGeneration seenFamily : Db}
    (ran : ((Call.exchangeRefreshToken input mint seenGeneration seenFamily).body sha).run exec db =
      .ok (outcome, after)) :
    ∃ candidate family result,
      refreshCandidate input.tokenHash seenGeneration seenFamily = some (candidate, family) ∧
        RefreshEnd sha input mint candidate family db result after ∧
        outcome = result.map Answer.tokens := by
  obtain ⟨result, refreshed, same⟩ := withTokens_ok.mp ran
  unfold refreshByHash at refreshed
  split at refreshed
  · cases refreshed
  · rename_i candidate family found
    exact ⟨candidate, family, result, found, exchangeRefreshToken_ok sound refreshed, same⟩

/-- A committed issue of a code. -/
theorem issue_ran (sound : db.Sound) {commit : IssueCommit}
    (ran : ((Call.issueAuthorizationCode commit).body sha).run exec db = .ok (outcome, after)) :
    ∃ grant, Nonempty (Issued commit grant db after) := by
  obtain ⟨⟨grant, ran⟩, -⟩ := quietly_ok.mp ran
  exact ⟨grant, issueAuthorizationCode_ok sound ran⟩

end OneIssuer
