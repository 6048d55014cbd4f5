import OneIssuer.Invariants

/-!
# What cleanup leaves

Cleanup deletes access tokens that ended at or before its cutoff, and families that nothing names.
An access token that ends later is still there after any number of steps, with the rows it depends
on (`Run.carries`).
-/

set_option autoImplicit false

namespace OneIssuer

open Relational Token Store

variable {sha : Sha256} {zone : Zone} {db after : Db}

/-! ## Statements -/

/-- The statement does not delete an access token that ends at `deadline`. -/
def Stmt.Spares {β : Type} (deadline : Time) : Stmt β → Prop
  | .retireAccessTokens cutoff _ _ => cutoff < deadline
  | _ => True

/-- There is a row with this identifier that ends at `deadline`. -/
def Db.HasAccess (id : Uuid) (deadline : Time) (db : Db) : Prop :=
  ∃ row ∈ db.accessTokens, row.id = id ∧ row.expiresAt = deadline

theorem Db.HasAccess.grew {id : Uuid} {deadline : Time} (distinct : (db.accessTokens.map (·.id)).Nodup)
    (grew : db.Grew after) (has : db.HasAccess id deadline) : after.HasAccess id deadline := by
  obtain ⟨row, member, isID, ends⟩ := has
  obtain ⟨kept, inAfter, keptID⟩ := grew.accesses.kept row member
  have continued := grew.accesses.evolves.continues distinct member inAfter keptID
  exact ⟨kept, inAfter, keptID.trans isID, by rw [continued.same]; exact ends⟩

/-- Unlinking a row keeps its identifier and its end. -/
theorem Db.HasAccess.unlinked {id : Uuid} {deadline : Time} {matching : AccessToken → Bool}
    {unlink : AccessToken → AccessToken}
    (has : db.HasAccess id deadline)
    (accesses : after.accessTokens = updateRows matching unlink db.accessTokens)
    (same : ∀ row, (unlink row).id = row.id ∧ (unlink row).expiresAt = row.expiresAt) :
    after.HasAccess id deadline := by
  obtain ⟨row, member, isID, ends⟩ := has
  rw [Db.HasAccess, accesses]
  refine ⟨_, mem_updateRows.mpr ⟨row, member, rfl⟩, ?_⟩
  split
  · exact ⟨(same row).1.trans isID, (same row).2.trans ends⟩
  · exact ⟨isID, ends⟩

theorem exec_hasAccess {β : Type} {statement : Stmt β} {answer : β} {id : Uuid} {deadline : Time}
    (sound : db.Sound) (spares : statement.Spares deadline)
    (executed : exec statement db = .ok (answer, after)) (has : db.HasAccess id deadline) :
    after.HasAccess id deadline := by
  by_cases keeps : statement.keepsRows
  · exact has.grew sound.accesses.distinct (exec_grew keeps executed)
  cases statement with
  | retireLoginSessions cutoff limit locked =>
    rw [exec] at executed
    have deleted := (counted_ok.mp executed).1
    rw [deleteLoginSessions_ok deleted]
    exact has.unlinked rfl fun _ => ⟨rfl, rfl⟩
  | retireAuthorizationCodes cutoff limit locked =>
    rw [exec] at executed
    have deleted := (counted_ok.mp executed).1
    rw [deleteAuthorizationCodes] at deleted
    rw [unlinkAccessTokens_ok deleted]
    exact has.unlinked rfl fun _ => ⟨rfl, rfl⟩
  | retireAccessTokens cutoff limit locked =>
    rw [exec] at executed
    cases (counted_ok.mp executed).1
    obtain ⟨row, member, isID, ends⟩ := has
    refine ⟨row, List.mem_filter.mpr ⟨member, ?_⟩, isID, ends⟩
    -- a deleted row with this identifier would be this row, which ends after the cutoff
    simp only [Bool.not_eq_true', List.any_eq_false, beq_iff_eq]
    intro other doomed sameID
    obtain ⟨inTable, ended⟩ := mem_batch doomed
    obtain rfl := sound.accesses.unique inTable member sameID
    rw [ends] at ended
    exact absurd (of_decide_eq_true ended) (not_le.mpr spares)
  | retireRefreshTokens cutoff limit locked | retireRefreshTokenFamilies cutoff limit locked =>
    have kept : db.Same after .accessTokens := exec_same (by simp [Stmt.writes]) executed
    have accesses : after.accessTokens = db.accessTokens := kept
    rw [Db.HasAccess, accesses]
    exact has
  | _ => exact absurd rfl keeps

/-! ## Steps -/

/-- A call whose cutoffs are before the deadline deletes no token that ends there. -/
theorem Call.body_spares (call : Call) {deadline : Time}
    (early : ∀ cutoff ∈ call.cutoffs, timestamp cutoff < deadline) :
    (call.body sha).Only fun _ statement => statement.Spares deadline := by
  have growing (grows : .retire ∉ call.kinds) :
      (call.body sha).Only fun _ statement => statement.Spares deadline := by
    refine Program.Only.mono (call.body_within sha) fun _ statement reached => ?_
    cases statement with
    | retireAccessTokens cutoff limit locked => exact absurd reached grows
    | _ => trivial
  cases call with
  | cleanupSessions preAuthCutoff retiredCutoff now locked =>
    exact .bind (.bind ⟨trivial, fun _ => trivial⟩ fun _ =>
      .bind ⟨trivial, fun _ => trivial⟩ fun _ => trivial) fun _ => trivial
  | cleanupProtocolArtifacts cutoff now locked =>
    have spared : timestamp cutoff < deadline := early cutoff List.mem_cons_self
    exact .bind (.bind ⟨trivial, fun _ => trivial⟩ fun _ =>
      .bind ⟨spared, fun _ => trivial⟩ fun _ => trivial) fun _ => trivial
  | cleanupRefreshArtifacts cutoff now locked =>
    exact .bind (.bind ⟨trivial, fun _ => trivial⟩ fun _ =>
      .bind ⟨trivial, fun _ => trivial⟩ fun _ => trivial) fun _ => trivial
  | _ => exact growing (by simp [Call.kinds])

theorem Entry.Ran.hasAccess {entry : Entry} (took : entry.Ran sha) (sound : entry.before.Sound)
    {id : Uuid} {deadline : Time}
    (early : ∀ cutoff ∈ entry.call.cutoffs, timestamp cutoff < deadline)
    (has : entry.before.HasAccess id deadline) : entry.after.HasAccess id deadline := by
  rcases took.cases with ran | ⟨-, unchanged⟩
  · let holds : Db → Prop := fun db => db.Sound ∧ db.HasAccess id deadline
    have carried := Program.run_rel (R := fun s s' => holds s → holds s') (fun _ held => held)
      (fun _ _ _ first second held => second (first held))
      (fun _ statement s answer s' spares executed held =>
        ⟨exec_sound held.1 executed, exec_hasAccess held.1 spares executed held.2⟩)
      (entry.call.body_spares early) ran
    exact (carried ⟨sound, has⟩).2
  · rw [unchanged]
    exact has

/-! ## Runs -/

/-- A run starts with a run. -/
theorem Run.split {later past : List Entry} (run : Run sha zone (later ++ past) db) :
    ∃ between, Run sha zone past between ∧
      ∀ seen ∈ states past between, seen ∈ states (later ++ past) db := by
  induction later generalizing db with
  | nil => exact ⟨db, run, fun _ seen => seen⟩
  | cons entry later ih =>
    cases run with
    | step ran _ _ _ =>
      obtain ⟨between, begun, seen⟩ := ih ran
      exact ⟨between, begun, fun state member => List.mem_cons_of_mem _ (seen state member)⟩

/-- An access token and the rows it depends on are there in a later state. -/
structure Db.Carries (before after : Db) (token : AccessToken) : Prop where
  access : ∃ kept ∈ after.accessTokens, kept.id = token.id ∧ AccessContinues token kept
  users : Grows User.id UserContinues before.users after.users
  clients : Grows ClientRow.id ClientContinues before.clients after.clients
  grants : Grows ConsentGrant.id GrantContinues before.consentGrants after.consentGrants
  families : ∀ family ∈ before.refreshTokenFamilies, token.refreshFamilyID = some family.id →
    ∃ kept ∈ after.refreshTokenFamilies, kept.id = family.id ∧ FamilyContinues family kept

theorem Db.Carries.refl {token : AccessToken} (stored : token ∈ db.accessTokens) :
    db.Carries db token where
  access := ⟨token, stored, rfl, .refl token⟩
  users := .refl UserContinues.refl _
  clients := .refl ClientContinues.refl _
  grants := .refl GrantContinues.refl _
  families family member _ := ⟨family, member, rfl, .refl family⟩

/-- One more step. -/
theorem Db.Carries.step {issued : Db} {entry : Entry} {token : AccessToken}
    (carried : issued.Carries entry.before token) (took : entry.Ran sha)
    (sound : entry.before.Sound)
    (early : ∀ cutoff ∈ entry.call.cutoffs, timestamp cutoff < token.expiresAt) :
    issued.Carries entry.after token := by
  have evolved := took.evolved
  obtain ⟨old, inBefore, oldID, continued⟩ := carried.access
  obtain ⟨kept, inAfter, keptID, -⟩ := took.hasAccess sound early
    ⟨old, inBefore, oldID, by rw [continued.same]⟩
  have moved : AccessContinues old kept := evolved.accesses.continues sound.accesses.distinct inBefore
    inAfter (keptID.trans oldID.symm)
  refine ⟨⟨kept, inAfter, keptID, .trans _ _ _ continued moved⟩,
    carried.users.trans UserContinues.trans evolved.users,
    carried.clients.trans ClientContinues.trans evolved.clients,
    carried.grants.trans GrantContinues.trans evolved.grants, ?_⟩
  intro family member named
  obtain ⟨between, inBetween, betweenID, first⟩ := carried.families family member named
  rcases evolved.familyKept between inBetween with ⟨last, inLast, lastID⟩ | free
  · have second := evolved.families.continues sound.families.distinct inBetween inLast lastID
    exact ⟨last, inLast, lastID.trans betweenID, .trans _ _ _ first second⟩
  · -- the token still names the family
    refine absurd ?_ (free.2 kept inAfter)
    rw [moved.same, continued.same, named, betweenID]

theorem Run.carries {later past : List Entry} {issued : Db} (issuedRun : Run sha zone past issued)
    (run : Run sha zone (later ++ past) db) {token : AccessToken}
    (stored : token ∈ issued.accessTokens)
    (early : ∀ entry ∈ later, ∀ cutoff ∈ entry.call.cutoffs, timestamp cutoff < token.expiresAt) :
    issued.Carries db token := by
  induction later generalizing db with
  | nil => exact issuedRun.unique run ▸ .refl stored
  | cons entry later ih =>
    cases run with
    | step ran took _ _ =>
      have before := ih ran fun other member => early other (List.mem_cons_of_mem _ member)
      exact before.step took ran.sound (early entry List.mem_cons_self)

end OneIssuer
