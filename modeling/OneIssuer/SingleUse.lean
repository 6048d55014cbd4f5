import OneIssuer.Minting

/-!
# Single use of codes and generations

An exchange uses its code up and a refresh uses its generation up, in the same step that creates the
rows naming them, and a used code or generation is never unused again. So over a whole run at most
one call gets tokens for a digest, and at most one access token and one family ever name a code.

`code_single_use` is an induction over the run: a step that makes a row for a digest finds the digest
unused (`UsesUp`), and no later step takes the mark back.

**What it does not establish.** That the tokens reach the client: when the answer is lost, the code is
used up.
-/

set_option autoImplicit false

namespace OneIssuer

open Relational Token Store

variable {sha : Sha256} {zone : Zone} {entries : List Entry} {db : Db}

/-! ## What a run preserves -/

section Runs

variable {ρ τ δ : Type} {id : ρ → Uuid} {link : ρ → Option δ} {table : Db → List ρ} {key : τ → δ}
  {used : τ → Prop} {source : Db → List τ}

/-- A source that was seen used is used in the last state. -/
def StaysUsed (key : τ → δ) (used : τ → Prop) (source : Db → List τ) (history : List Db) (last : Db) :
    Prop :=
  ∀ seen ∈ history, ∀ s ∈ source seen, used s → ∀ t ∈ source last, key t = key s → used t

/-- Where every step uses up the sources it names, a run names each source once. -/
theorem Run.named
    (uses : ∀ entry : Entry, entry.Ran sha → entry.before.Sound →
      UsesUp id link table key used source entry.before entry.after)
    (stays : ∀ past db, Run sha zone past db → StaysUsed key used source (states past db) db)
    (empty : table (Db.empty zone) = []) (run : Run sha zone entries db) :
    NamesUsed link table key used source (states entries db) ∧
      NamedOnce id link table (states entries db) := by
  induction run with
  | start =>
    constructor
    · intro seen isStart row member
      rw [List.mem_singleton.mp isStart, empty] at member
      cases member
    · intro a isA b isB x inX
      rw [List.mem_singleton.mp isA, empty] at inX
      cases inX
  | @step past entry ran took _ _ ih =>
    have uses := uses entry took ran.sound
    have inHistory : entry.before ∈ states past entry.before := List.mem_cons_self
    exact ⟨ih.1.step inHistory uses, ih.2.step ih.1 (stays _ _ ran) inHistory uses⟩

/-- Where every step with `P` uses up one and the same source, at most one step of a run has it. -/
theorem Run.pairwise_not {P : Entry → Prop} {k : δ}
    (uses : ∀ entry : Entry, entry.Ran sha → entry.before.Sound → P entry →
      UsedUp key used source entry.before entry.after k)
    (stays : ∀ past db, Run sha zone past db → StaysUsed key used source (states past db) db)
    (run : Run sha zone entries db) :
    entries.Pairwise fun later earlier => ¬ (P later ∧ P earlier) := by
  induction run with
  | start => exact List.Pairwise.nil
  | @step past entry ran took _ _ ih =>
    refine List.Pairwise.cons ?_ ih
    rintro earlier member ⟨now, before⟩
    obtain ⟨_, _, found⟩ := ran.at member
    obtain ⟨⟨t, inBefore, isKey, unused⟩, -⟩ := uses entry took ran.sound now
    obtain ⟨-, s, inAfter, sameKey, isUsed⟩ := uses earlier found.took found.before.sound before
    exact unused (stays _ _ ran earlier.after (found.states _ List.mem_cons_self) s inAfter isUsed t
      inBefore (isKey.trans sameKey.symm))

theorem Run.codes_stayUsed (run : Run sha zone entries db) :
    StaysUsed AuthorizationCode.id (·.consumedAt.isSome) Db.authorizationCodes (states entries db)
      db := by
  intro seen inHistory code member consumed last inLast sameID
  exact (run.codes seen inHistory code member last inLast (Or.inl sameID.symm)).2.consumedAt.isSome
    consumed

theorem Run.codeHashes_stayUsed (run : Run sha zone entries db) :
    StaysUsed AuthorizationCode.codeHash (·.consumedAt.isSome) Db.authorizationCodes
      (states entries db) db := by
  intro seen inHistory code member consumed last inLast same
  exact (run.codes seen inHistory code member last inLast (Or.inr same.symm)).2.consumedAt.isSome
    consumed

theorem Run.generations_stayUsed (run : Run sha zone entries db) :
    StaysUsed RefreshToken.id (·.consumedAt.isSome) Db.refreshTokens (states entries db) db := by
  intro seen inHistory generation member consumed last inLast sameID
  exact (run.generations seen inHistory generation member last inLast
    (Or.inl sameID.symm)).2.consumedAt.isSome consumed

theorem Run.tokenHashes_stayUsed (run : Run sha zone entries db) :
    StaysUsed RefreshToken.tokenHash (·.consumedAt.isSome) Db.refreshTokens (states entries db)
      db := by
  intro seen inHistory generation member consumed last inLast same
  exact (run.generations seen inHistory generation member last inLast
    (Or.inr same.symm)).2.consumedAt.isSome consumed

end Runs

/-! ## What one step uses up -/

section Steps

variable {entry : Entry} (took : entry.Ran sha) (sound : entry.before.Sound)
include took sound

/-- An access token that names a code uses the code up. -/
theorem Entry.Ran.accesses_useCodes :
    UsesUp AccessToken.id AccessToken.authorizationCodeID Db.accessTokens AuthorizationCode.id
      (·.consumedAt.isSome) Db.authorizationCodes entry.before entry.after := by
  cases took.minting sound with
  | none _ _ accesses =>
    refine usesUp_of_old fun row member => ?_
    obtain ⟨old, inBefore, sameID⟩ := accesses row member
    have moved := took.evolved.accesses.continues sound.accesses.distinct inBefore member sameID.symm
    exact ⟨old, inBefore, sameID, moved.authorizationCodeID⟩
  | @exchanged input _ code locked _ _ inCodes _ unconsumed locks _ _ isAfter =>
    refine ⟨(exchangedAccess code locked).id, fun row member => ?_⟩
    rw [isAfter] at member ⊢
    rcases List.mem_append.mp member with old | new
    · exact Or.inl ⟨row, old, rfl, .refl _⟩
    · obtain rfl := List.mem_singleton.mp new
      refine Or.inr ⟨rfl, fun k isNamed => ?_⟩
      obtain rfl := Option.some.inj isNamed
      have unexpired := (timestamp_le input.now).trans_lt locks.unexpired
      exact ⟨⟨code, inCodes, rfl, by simp [unconsumed]⟩, _,
        mem_consumedCodes inCodes unconsumed unexpired, rfl, rfl⟩
  | @rotated _ _ _ _ _ _ locked scopes minted _ _ _ _ _ _ _ _ _ isAfter =>
    refine ⟨(refreshedAccess locked scopes minted).id, fun row member => ?_⟩
    rw [isAfter] at member
    rcases List.mem_append.mp member with old | new
    · exact Or.inl ⟨row, old, rfl, .refl _⟩
    · obtain rfl := List.mem_singleton.mp new
      exact Or.inr ⟨rfl, nofun⟩

/-- A family that names a code uses the code up. -/
theorem Entry.Ran.families_useCodes :
    UsesUp RefreshTokenFamily.id RefreshTokenFamily.originAuthorizationCodeID
      Db.refreshTokenFamilies AuthorizationCode.id (·.consumedAt.isSome) Db.authorizationCodes
      entry.before entry.after := by
  cases took.minting sound with
  | none families =>
    refine usesUp_of_old fun row member => ?_
    obtain ⟨old, inBefore, sameID⟩ := families row member
    have moved := took.evolved.families.continues sound.families.distinct inBefore member sameID.symm
    exact ⟨old, inBefore, sameID, moved.originAuthorizationCodeID⟩
  | @exchanged input _ code locked _ _ inCodes _ unconsumed locks _ _ isAfter =>
    refine ⟨(locked.minted.initialRefresh.map (·.familyID)).getD Uuid.nil, fun row member => ?_⟩
    rw [isAfter] at member ⊢
    rcases List.mem_append.mp member with old | new
    · exact Or.inl ⟨row, old, rfl, .refl _⟩
    · obtain ⟨initial, binding, isInitial, -, rfl⟩ := mem_initialFamilies new
      refine Or.inr ⟨by rw [isInitial]; rfl, fun k isNamed => ?_⟩
      obtain rfl := Option.some.inj isNamed
      have unexpired := (timestamp_le input.now).trans_lt locks.unexpired
      exact ⟨⟨code, inCodes, rfl, by simp [unconsumed]⟩, _,
        mem_consumedCodes inCodes unconsumed unexpired, rfl, rfl⟩
  | rotated _ _ _ _ _ _ _ _ isAfter =>
    refine usesUp_of_old fun row member => ?_
    rw [isAfter] at member
    exact ⟨row, member, rfl, .refl _⟩

/-- An access token that names a generation uses the generation up. -/
theorem Entry.Ran.accesses_useGenerations :
    UsesUp AccessToken.id AccessToken.sourceRefreshTokenID Db.accessTokens RefreshToken.id
      (·.consumedAt.isSome) Db.refreshTokens entry.before entry.after := by
  cases took.minting sound with
  | none _ _ accesses =>
    refine usesUp_of_old fun row member => ?_
    obtain ⟨old, inBefore, sameID⟩ := accesses row member
    have moved := took.evolved.accesses.continues sound.accesses.distinct inBefore member sameID.symm
    exact ⟨old, inBefore, sameID, Or.inl (by rw [moved.same])⟩
  | @exchanged _ _ code locked _ _ _ _ _ _ _ _ isAfter =>
    refine ⟨(exchangedAccess code locked).id, fun row member => ?_⟩
    rw [isAfter] at member
    rcases List.mem_append.mp member with old | new
    · exact Or.inl ⟨row, old, rfl, .refl _⟩
    · obtain rfl := List.mem_singleton.mp new
      exact Or.inr ⟨rfl, nofun⟩
  | @rotated _ _ _ _ _ _ locked scopes minted _ _ _ locks unconsumed _ _ _ _ isAfter =>
    refine ⟨(refreshedAccess locked scopes minted).id, fun row member => ?_⟩
    rw [isAfter] at member ⊢
    rcases List.mem_append.mp member with old | new
    · exact Or.inl ⟨row, old, rfl, .refl _⟩
    · obtain rfl := List.mem_singleton.mp new
      refine Or.inr ⟨rfl, fun k isNamed => ?_⟩
      obtain rfl := Option.some.inj isNamed
      exact ⟨⟨locked.presented, locks.presented, rfl, by simp [unconsumed]⟩, _,
        List.mem_append_left _ (mem_consumedGenerations locks.presented unconsumed), rfl, rfl⟩

end Steps

/-! ## Calls that return tokens -/

/-- The call exchanged the code with this digest for tokens. -/
def Entry.Exchanges (digest : Bytes) (entry : Entry) : Prop :=
  ∃ input mint response, entry.call = .exchangeAuthorizationCode input mint ∧
    input.codeHash = digest ∧ entry.outcome = .ok (.tokens response)

/-- The call exchanged the refresh token with this digest for tokens. -/
def Entry.Refreshes (digest : Bytes) (entry : Entry) : Prop :=
  ∃ input mint seenGeneration seenFamily response,
    entry.call = .exchangeRefreshToken input mint seenGeneration seenFamily ∧
    input.tokenHash = digest ∧ entry.outcome = .ok (.tokens response)

theorem Entry.Exchanges.usesUp {digest : Bytes} {entry : Entry} (took : entry.Ran sha)
    (sound : entry.before.Sound) (exchanges : entry.Exchanges digest) :
    UsedUp AuthorizationCode.codeHash (·.consumedAt.isSome) Db.authorizationCodes entry.before
      entry.after digest := by
  obtain ⟨input, mint, response, isCall, isDigest, answered⟩ := exchanges
  have ran := took.of_ok answered
  rw [isCall] at ran
  obtain ⟨result, ended, isOutcome⟩ := exchange_ran sound ran
  generalize entry.after = after at ended ⊢
  cases ended with
  | replayed => cases isOutcome
  | @exchanged code _ _ inCodes presented unconsumed locks =>
    have unexpired := (timestamp_le input.now).trans_lt locks.unexpired
    exact ⟨⟨code, inCodes, presented.trans isDigest, by simp [unconsumed]⟩, _,
      mem_consumedCodes inCodes unconsumed unexpired, presented.trans isDigest, rfl⟩

theorem Entry.Refreshes.usesUp {digest : Bytes} {entry : Entry} (took : entry.Ran sha)
    (sound : entry.before.Sound) (refreshes : entry.Refreshes digest) :
    UsedUp RefreshToken.tokenHash (·.consumedAt.isSome) Db.refreshTokens entry.before entry.after
      digest := by
  obtain ⟨input, mint, _, _, response, isCall, isDigest, answered⟩ := refreshes
  have ran := took.of_ok answered
  rw [isCall] at ran
  obtain ⟨_, _, result, -, ended, isOutcome⟩ := refresh_ran sound ran
  generalize entry.after = after at ended ⊢
  cases ended with
  | reused => cases isOutcome
  | @rotated locked _ _ _ locks unconsumed =>
    exact ⟨⟨locked.presented, locks.presented, locks.presentedHash.trans isDigest,
      by simp [unconsumed]⟩, _,
      List.mem_append_left _ (mem_consumedGenerations locks.presented unconsumed),
      locks.presentedHash.trans isDigest, rfl⟩

/-! ## Codes -/

/-- The replay of a code is recorded at most once. -/
theorem replay_once (sound : db.Sound) (code : AuthorizationCode) :
    db.auditEvents.Pairwise fun first second => ¬ (isReplayOf code first ∧ isReplayOf code second) := by
  refine sound.events.imp fun {first second} once => ?_
  rintro ⟨⟨firstType, firstKind, firstTarget⟩, secondType, secondKind, secondTarget⟩
  simp [AuditEvent.oncePerTarget, firstType, firstKind, firstTarget, secondType, secondKind,
    secondTarget] at once

/-- An exchange that reports an error changed nothing, or recorded the replay of a consumed code. -/
theorem Entry.Ran.exchange_failed {entry : Entry} (took : entry.Ran sha)
    (sound : entry.before.Sound) {input : ExchangeInput} {mint : MintFunc}
    (isCall : entry.call = .exchangeAuthorizationCode input mint) {error : StoreError}
    (failed : entry.outcome = .error error) :
    entry.after = entry.before ∨
      ∃ code ∈ entry.before.authorizationCodes, code.codeHash = input.codeHash ∧
        code.consumedAt.isSome ∧ ∃ event, isReplayOf code event ∧
          (∀ old ∈ entry.before.auditEvents, ¬ isReplayOf code old) ∧
          Appended [event] entry.before entry.after := by
  rcases took.cases with ran | ⟨-, unchanged⟩
  · rw [isCall, failed] at ran
    obtain ⟨result, ended, isOutcome⟩ := exchange_ran sound ran
    generalize entry.after = after at ended ⊢
    cases ended with
    | @replayed code _ inCodes presented consumed recorded =>
      rcases recorded with same | ⟨event, isReplay, first, appended⟩
      · exact Or.inl same
      · exact Or.inr ⟨code, inCodes, presented, consumed, event, isReplay, first, appended⟩
    | exchanged => cases isOutcome
  · exact Or.inl unchanged

/-- Authorization codes are single use: at most one call returns tokens for a digest, at most one
access token and one family ever name the code, its replay is recorded at most once, and an exchange
that reports an error leaves everything as it was, apart from that record. -/
theorem code_single_use (run : Run sha zone entries db) (digest : Bytes) :
    (entries.Pairwise fun later earlier =>
      ¬ (later.Exchanges digest ∧ earlier.Exchanges digest)) ∧
    (∀ seen ∈ states entries db, ∀ code ∈ seen.authorizationCodes, code.codeHash = digest →
      (∀ first ∈ states entries db, ∀ second ∈ states entries db,
        ∀ token ∈ first.accessTokens, ∀ other ∈ second.accessTokens,
          token.issuanceSource = .authorizationCode → token.authorizationCodeID = some code.id →
          other.issuanceSource = .authorizationCode → other.authorizationCodeID = some code.id →
          token.id = other.id) ∧
      (∀ first ∈ states entries db, ∀ second ∈ states entries db,
        ∀ family ∈ first.refreshTokenFamilies, ∀ other ∈ second.refreshTokenFamilies,
          family.originAuthorizationCodeID = some code.id →
          other.originAuthorizationCodeID = some code.id → family.id = other.id) ∧
      db.auditEvents.Pairwise fun first second =>
        ¬ (isReplayOf code first ∧ isReplayOf code second)) ∧
    ∀ entry ∈ entries, ∀ input mint error,
      entry.call = .exchangeAuthorizationCode input mint → input.codeHash = digest →
      entry.outcome = .error error →
        entry.after = entry.before ∨
          ∃ code ∈ entry.before.authorizationCodes, code.codeHash = digest ∧
            code.consumedAt.isSome ∧ ∃ event, isReplayOf code event ∧
              (∀ old ∈ entry.before.auditEvents, ¬ isReplayOf code old) ∧
              entry.after =
                { entry.before with auditEvents := entry.before.auditEvents ++ [event] } := by
  refine ⟨?_, ?_, ?_⟩
  · exact run.pairwise_not (fun _ took sound exchanges => exchanges.usesUp took sound)
      fun _ _ past => past.codeHashes_stayUsed
  · intro seen _ code _ _
    have tokens := (run.named (fun _ took sound => took.accesses_useCodes sound)
      (fun _ _ past => past.codes_stayUsed) rfl).2
    have families := (run.named (fun _ took sound => took.families_useCodes sound)
      (fun _ _ past => past.codes_stayUsed) rfl).2
    refine ⟨?_, ?_, replay_once run.sound code⟩
    · intro first inFirst second inSecond token inTokens other inOthers _ named _ alsoNamed
      exact tokens first inFirst second inSecond token inTokens other inOthers code.id named alsoNamed
    · intro first inFirst second inSecond family inFamilies other inOthers named alsoNamed
      exact families first inFirst second inSecond family inFamilies other inOthers code.id named
        alsoNamed
  · intro entry member input mint error isCall isDigest failed
    obtain ⟨_, _, found⟩ := run.at member
    rw [← isDigest]
    exact found.took.exchange_failed found.before.sound isCall failed

theorem code_single_use_sample :
    Sample.exchanged.Exchanges (Sample.digest 7) ∧
      (Sample.exchanged :: Sample.flow).Pairwise fun later earlier =>
        ¬ (later.Exchanges (Sample.digest 7) ∧ earlier.Exchanges (Sample.digest 7)) := by
  refine ⟨⟨_, _,
    { accessToken := "access", tokenType := "Bearer", expiresIn := 300, idToken := "id"
      refreshToken := Sample.refreshText 'A', scope := "offline_access openid profile" }, rfl, rfl,
    ?_⟩, (code_single_use Sample.exchanged_run (Sample.digest 7)).1⟩
  decide +kernel

end OneIssuer
