import OneIssuer.Footprint

/-!
# Rows along a run

What one step of a run does to the tables (`Entry.Ran.evolved`), that every state of a run is sound
(`Run.sound`), and that the rows of the token tables can be followed from any earlier state of a run to
its last one (`Run.codes`, `Run.families`, `Run.generations`, `Run.accesses`); rows of tables that lose
none are still there (`Run.kept`).
-/

set_option autoImplicit false

namespace OneIssuer

open Relational Token

/-! ## One step -/

/-- What a call leaves of the rows that were there before it. -/
structure Db.Evolved (before after : Db) : Prop where
  users : Grows User.id UserContinues before.users after.users
  clients : Grows ClientRow.id ClientContinues before.clients after.clients
  grants : Grows ConsentGrant.id GrantContinues before.consentGrants after.consentGrants
  sessions : Evolves LoginSession.id SessionContinues before.loginSessions after.loginSessions
  codes : Evolves AuthorizationCode.id CodeContinues before.authorizationCodes
    after.authorizationCodes
  families : Evolves RefreshTokenFamily.id FamilyContinues before.refreshTokenFamilies
    after.refreshTokenFamilies
  generations : Evolves RefreshToken.id GenerationContinues before.refreshTokens
    after.refreshTokens
  accesses : Evolves AccessToken.id AccessContinues before.accessTokens after.accessTokens
  familyKept : ∀ family ∈ before.refreshTokenFamilies,
    (∃ kept ∈ after.refreshTokenFamilies, kept.id = family.id) ∨ after.Unreferenced family.id
  events : before.auditEvents <+: after.auditEvents

theorem Db.Grew.evolved {before after : Db} (grew : before.Grew after) : before.Evolved after where
  users := grew.users
  clients := grew.clients
  grants := grew.grants
  sessions := grew.sessions.evolves
  codes := grew.codes.evolves
  families := grew.families.evolves
  generations := grew.generations.evolves
  accesses := grew.accesses.evolves
  familyKept family member := Or.inl (grew.families.kept family member)
  events := grew.events

theorem Db.Shrank.evolved {before after : Db} (shrank : before.Shrank after) :
    before.Evolved after where
  users := shrank.users ▸ .refl UserContinues.refl _
  clients := shrank.clients ▸ .refl ClientContinues.refl _
  grants := shrank.grants ▸ .refl GrantContinues.refl _
  sessions := shrank.sessions.evolves
  codes := shrank.codes.evolves
  families := shrank.families.evolves
  generations := shrank.generations.evolves
  accesses := shrank.accesses.evolves
  familyKept := shrank.familyKept
  events := shrank.events ▸ List.prefix_refl _

/-- A call deletes rows or adds rows, never both. -/
theorem Call.kinds_retire (call : Call) : call.kinds = [.retire] ∨ .retire ∉ call.kinds := by
  cases call <;> simp [Call.kinds]

/-- A body that ran to its end evolved the database. -/
theorem Call.evolved {sha : Sha256} {call : Call} {db after : Db}
    {outcome : Except StoreError Answer}
    (ran : (call.body sha).run exec db = .ok (outcome, after)) : db.Evolved after := by
  have within := call.body_within sha
  rcases call.kinds_retire with retiring | growing
  · rw [retiring] at within
    exact (run_shrank within ran).evolved
  · exact (run_grew within growing ran).evolved

theorem Entry.Ran.evolved {sha : Sha256} {entry : Entry} (took : entry.Ran sha) :
    entry.before.Evolved entry.after := by
  rcases took.cases with ran | ⟨-, unchanged⟩
  · exact Call.evolved ran
  · rw [unchanged]
    exact (Db.Grew.refl _).evolved

theorem Entry.Ran.sound {sha : Sha256} {entry : Entry} (took : entry.Ran sha)
    (sound : entry.before.Sound) : entry.after.Sound := by
  rcases took.cases with ran | ⟨-, unchanged⟩
  · exact run_sound sound ran
  · rw [unchanged]
    exact sound

/-! ## Whole runs -/

section Runs

variable {sha : Sha256} {zone : Zone} {entries : List Entry} {db : Db}

/-- Every state of a run is sound. -/
theorem Run.sound (run : Run sha zone entries db) : db.Sound := by
  induction run with
  | start => exact Db.sound_empty zone
  | step _ took _ _ ih => exact took.sound ih

/-- The entries of a run determine its last state. -/
theorem Run.unique {first second : Db} (run : Run sha zone entries first)
    (other : Run sha zone entries second) : first = second := by
  cases run <;> cases other <;> rfl

/-- A step of a run with the runs before and after it. -/
structure Run.At (sha : Sha256) (zone : Zone) (entries : List Entry) (db : Db) (entry : Entry)
    (later past : List Entry) : Prop where
  split : entries = later ++ entry :: past
  before : Run sha zone past entry.before
  after : Run sha zone (entry :: past) entry.after
  took : entry.Ran sha
  read : ∀ seen ∈ entry.call.reads, seen ∈ states past entry.before
  states : ∀ seen ∈ states (entry :: past) entry.after, seen ∈ states entries db

/-- Every step of a run ends a run. -/
theorem Run.at (run : Run sha zone entries db) {entry : Entry} (member : entry ∈ entries) :
    ∃ later past, Run.At sha zone entries db entry later past := by
  induction run with
  | start => cases member
  | @step past last ran took read fresh ih =>
    rcases List.mem_cons.mp member with rfl | earlier
    · exact ⟨[], past, rfl, ran, .step ran took read fresh, took, read, fun _ seen => seen⟩
    · obtain ⟨later, older, found⟩ := ih earlier
      refine ⟨last :: later, older, { found with
        split := congrArg (last :: ·) found.split
        states := fun seen inPart => List.mem_cons_of_mem _ (found.states seen inPart) }⟩

/-- Codes, followed by identifier or digest. -/
theorem Run.codes (run : Run sha zone entries db) :
    Descends AuthorizationCode.id AuthorizationCode.codeHash CodeContinues Db.authorizationCodes
      (states entries db) db := by
  induction run with
  | start => exact descends_self CodeContinues.refl List.nodup_nil List.nodup_nil
  | step ran took _ fresh ih =>
    have sound := took.sound ran.sound
    exact ih.step CodeContinues.refl CodeContinues.trans (fun _ _ moved => by rw [moved.same])
      took.evolved.codes fresh.codes ran.sound.codes.distinct sound.codes.distinct sound.codeHashes

/-- Families, followed by identifier. -/
theorem Run.families (run : Run sha zone entries db) :
    Descends RefreshTokenFamily.id RefreshTokenFamily.id FamilyContinues Db.refreshTokenFamilies
      (states entries db) db := by
  induction run with
  | start => exact descends_self FamilyContinues.refl List.nodup_nil List.nodup_nil
  | step ran took _ fresh ih =>
    have sound := took.sound ran.sound
    exact ih.step FamilyContinues.refl FamilyContinues.trans (fun _ _ moved => by rw [moved.same])
      took.evolved.families fresh.families ran.sound.families.distinct sound.families.distinct
      sound.families.distinct

/-- Generations, followed by identifier or digest. -/
theorem Run.generations (run : Run sha zone entries db) :
    Descends RefreshToken.id RefreshToken.tokenHash GenerationContinues Db.refreshTokens
      (states entries db) db := by
  induction run with
  | start => exact descends_self GenerationContinues.refl List.nodup_nil List.nodup_nil
  | step ran took _ fresh ih =>
    have sound := took.sound ran.sound
    exact ih.step GenerationContinues.refl GenerationContinues.trans
      (fun _ _ moved => by rw [moved.same]) took.evolved.generations fresh.generations
      ran.sound.generations.distinct sound.generations.distinct sound.tokenHashes

/-- Access tokens, followed by identifier or digest. -/
theorem Run.accesses (run : Run sha zone entries db) :
    Descends AccessToken.id AccessToken.jtiHash AccessContinues Db.accessTokens
      (states entries db) db := by
  induction run with
  | start => exact descends_self AccessContinues.refl List.nodup_nil List.nodup_nil
  | step ran took _ fresh ih =>
    have sound := took.sound ran.sound
    exact ih.step AccessContinues.refl AccessContinues.trans (fun _ _ moved => by rw [moved.same])
      took.evolved.accesses fresh.accesses ran.sound.accesses.distinct sound.accesses.distinct
      sound.jtiHashes

/-- In a table that loses no rows, a row of an earlier state is still there. -/
theorem Run.kept {ρ κ : Type} {id : ρ → κ} {R : ρ → ρ → Prop} {table : Db → List ρ}
    (refl : ∀ row, R row row) (trans : ∀ a b c, R a b → R b c → R a c)
    (grows : ∀ entry : Entry, entry.Ran sha → Grows id R (table entry.before) (table entry.after))
    (distinct : ∀ db : Db, db.Sound → ((table db).map id).Nodup) (run : Run sha zone entries db) :
    ∀ seen ∈ states entries db, ∀ old ∈ table seen, ∃ row ∈ table db, id row = id old ∧ R old row := by
  induction run with
  | start =>
    intro seen isStart old member
    rw [List.mem_singleton.mp isStart] at member
    exact ⟨old, member, rfl, refl old⟩
  | @step past entry ran took _ _ ih =>
    intro seen inHistory old member
    rcases List.mem_cons.mp inHistory with rfl | earlier
    · exact ⟨old, member, rfl, refl old⟩
    · obtain ⟨row, inBefore, sameID, moved⟩ := ih seen earlier old member
      have step := grows entry took
      obtain ⟨kept, inAfter, keptID⟩ := step.kept row inBefore
      have last := step.evolves.continues (distinct _ ran.sound) inBefore inAfter keptID
      exact ⟨kept, inAfter, keptID.trans sameID, trans _ _ _ moved last⟩

/-! ### Where a row comes from -/

/-- The step adds the row to its table. -/
def Entry.Adds {ρ κ : Type} (id : ρ → κ) (table : Db → List ρ) (entry : Entry) (row : ρ) : Prop :=
  row ∈ table entry.after ∧ ∀ old ∈ table entry.before, id old ≠ id row

/-- Every row of a reachable state continues a row that some step added. -/
theorem Run.added {ρ κ : Type} {id : ρ → κ} {R : ρ → ρ → Prop} {table : Db → List ρ}
    (refl : ∀ row, R row row) (trans : ∀ a b c, R a b → R b c → R a c)
    (evolves : ∀ entry : Entry, entry.Ran sha → Evolves id R (table entry.before) (table entry.after))
    (distinct : ∀ db : Db, db.Sound → ((table db).map id).Nodup)
    (empty : table (Db.empty zone) = []) (run : Run sha zone entries db) :
    ∀ row ∈ table db, ∃ entry ∈ entries, ∃ first, entry.Adds id table first ∧ id first = id row ∧
      R first row := by
  induction run with
  | start =>
    intro row member
    rw [empty] at member
    cases member
  | @step past entry ran took _ _ ih =>
    intro row member
    by_cases known : ∃ old ∈ table entry.before, id old = id row
    · obtain ⟨old, inBefore, sameID⟩ := known
      have moved : R old row :=
        (evolves entry took).continues (distinct _ ran.sound) inBefore member sameID.symm
      obtain ⟨origin, inPast, first, adds, firstID, related⟩ := ih old inBefore
      exact ⟨origin, List.mem_cons_of_mem _ inPast, first, adds, firstID.trans sameID,
        trans _ _ _ related moved⟩
    · refine ⟨entry, List.mem_cons_self, row, ⟨member, ?_⟩, rfl, refl row⟩
      exact fun old inBefore sameID => known ⟨old, inBefore, sameID⟩

end Runs

/-! ## Runs nothing disturbs -/

section Calm

variable {sha : Sha256} {zone : Zone} {past : List Entry} {db : Db}

/-- The entry of a call whose first attempt meets no fault. -/
def Entry.calm (sha : Sha256) (call : Call) (before : Db) : Entry :=
  { call, first := .calm, second := .calm
    outcome := (seenByCaller (inTx (call.body sha) .calm .calm before)).1, before
    after := (seenByCaller (inTx (call.body sha) .calm .calm before)).2 }

theorem Entry.calm_ran (sha : Sha256) (call : Call) (before : Db) :
    (Entry.calm sha call before).Ran sha := rfl

/-- A row that moved is not new. -/
theorem freshTable_of_moved {ρ κ δ : Type} {id : ρ → κ} {digest : ρ → δ} {R : ρ → ρ → Prop}
    {table : Db → List ρ} {history : List Db} {before after : Db}
    (sameID : ∀ old new, R old new → id old = id new) (moved : Moved R (table before) (table after)) :
    FreshTable id digest table history before after := by
  intro row member
  obtain ⟨old, inBefore, related⟩ := moved.origin member
  exact Or.inl ⟨old, inBefore, sameID old row related⟩

/-- A call that adds no token row adds nothing that has to be fresh. -/
theorem Entry.Ran.fresh_of_quiet {entry : Entry} (took : entry.Ran sha)
    (quiet : ∀ kind ∈ entry.call.kinds,
      kind ∈ [Kind.quiet, .status, .session, .flow, .logout, .grant, .marked, .purge])
    (history : List Db) : Fresh history entry.before entry.after := by
  have stayed : Db.Stayed entry.call.kinds entry.before entry.after := by
    rcases took.cases with ran | ⟨-, unchanged⟩
    · exact run_stayed (entry.call.body_within sha) (fun retiring => by simpa using quiet _ retiring)
        ran
    · rw [unchanged]
      exact .refl _ _
  have without {kind : Kind}
      (other : kind ∉ [Kind.quiet, .status, .session, .flow, .logout, .grant, .marked, .purge]) :
      kind ∉ entry.call.kinds := fun member => other (quiet kind member)
  constructor
  · refine freshTable_of_moved (R := Eq) (fun _ _ same => by rw [same]) ?_
    rw [stayed.codes (without (by decide))]
    exact moved_refl (fun _ => rfl) _
  · exact freshTable_of_moved (fun _ _ moved => by rw [moved.same])
      (stayed.families (without (by decide)))
  · refine freshTable_of_moved (R := Eq) (fun _ _ same => by rw [same]) ?_
    rw [stayed.generations (without (by decide))]
    exact moved_refl (fun _ => rfl) _
  · exact freshTable_of_moved (fun _ _ moved => by rw [moved.same])
      (stayed.accesses (without (by decide)))

/-- A run goes on with an undisturbed call. -/
theorem Run.calm (run : Run sha zone past db) (call : Call)
    (read : ∀ seen ∈ call.reads, seen ∈ states past db)
    (fresh : Fresh (states past db) db (Entry.calm sha call db).after) :
    Run sha zone (Entry.calm sha call db :: past) (Entry.calm sha call db).after :=
  Run.step run (Entry.calm_ran sha call db) read fresh

/-- A run goes on with an undisturbed call that adds no token row. -/
theorem Run.quiet (run : Run sha zone past db) (call : Call)
    (read : ∀ seen ∈ call.reads, seen ∈ states past db)
    (quiet : ∀ kind ∈ call.kinds,
      kind ∈ [Kind.quiet, .status, .session, .flow, .logout, .grant, .marked, .purge]) :
    Run sha zone (Entry.calm sha call db :: past) (Entry.calm sha call db).after :=
  run.calm call read ((Entry.calm_ran sha call db).fresh_of_quiet quiet _)

end Calm

/-! ## A sample run

One user, one confidential client, one authorization flow: the run that the concrete cases of the
later modules start from. The digest function is a toy; the model assumes only the length of its
values. -/

namespace Sample

open Store

/-- 31 zeros and the code of the last character. -/
def sha : Sha256 where
  sum text := List.replicate 31 0 ++ [UInt8.ofNat (text.toList.getLastD 'a').toNat]
  length_sum _ := rfl

def start : Time := seconds 63800000000

/-- `n` seconds after the start. -/
def at' (n : Int) : Time := start + seconds n

def digest (n : Nat) : Bytes := List.replicate 31 0 ++ [UInt8.ofNat n]

def requestID : Audit.RequestID := ⟨"", by decide⟩

def event (n : Nat) : Audit.ServiceEvent where
  event :=
    { id := n + 1, type := .clientUpdated, result := .success, actorUserID := none
      targetType := none, targetID := none, requestID := "", changedFields := []
      occurredAt := 1 }
  valid := by simp [Audit.Event.validate, Uuid.nil, Time.isZero, Audit.validRequestID]
  ordinary := by simp

def scopes : List String := ["offline_access", "openid", "profile"]

def client : Client :=
  { id := 2, clientID := "ois_cli_AAAAAAAAAAAAAAAAAAAAAAAAAAAAAAAA", type := .typeConfidential
    tokenEndpointAuthMethod := .clientSecretBasic, name := "client", description := ""
    logoURI := "", status := .active, registrationEnabled := false
    redirectURIs := ["https://client.example/cb"], logoutURIs := [], scopes, createdAt := start
    updatedAt := start, version := 1 }

def user : User :=
  { id := 1, subject := "subject-0000000000001", username := "ann", usernameNormalized := "ann"
    displayName := "Ann", email := "a@b.c", emailNormalized := "a@b.c", emailVerified := true
    status := .active, role := .user, createdAt := start, updatedAt := start, lastLoginAt := none
    version := 1 }

def passwordHash : String :=
  "$argon2id$v=19$m=65536,t=3,p=1$AAAAAAAAAAAAAAAAAAAAAA$AAAAAAAAAAAAAAAAAAAAAAAAAAAAAAAAAAAAAAAAAAA"

def verifier : String := String.ofList (List.replicate 43 'a')

def transaction : Transaction :=
  { id := 3, tokenHash := digest 3, kind := .kindAuthorization, clientID := some 2
    redirectURI := "https://client.example/cb", scopes
    pkceChallenge := String.ofList (encodeRawURL (sha.sum verifier)), pkceMethod := "S256"
    state := "", nonce := "", promptCreate := false, responseType := "code"
    responseMode := "query", prompts := [], maxAgeSeconds := none, createdAt := start
    expiresAt := start + minutes 10 }

def session : SessionRecord :=
  { id := 5, userID := 1, sessionBindingID := 5, tokenHash := digest 5, csrfHash := digest 5
    csrfExpiresAt := start + minutes 10, createdAt := start, lastSeenAt := start
    authenticatedAt := start, expiresAt := start + hours 8, idleExpiresAt := start + hours 1
    userAgentHash := none, ipPrefix := "" }

def registration : RegisterCommit :=
  { user := ⟨user, passwordHash⟩, session, preAuthID := 4, transactionID := 3
    consumeTransaction := false, existingSessionHash := [], requestID, events := [] }

def issue : IssueCommit :=
  { transaction, userID := 1, sessionID := 5, sessionBindingID := 5, authenticatedAt := start
    interactiveConsent := true, codeID := 7, codeHash := digest 7, proposedGrantID := 8
    createdAt := start, expiresAt := start + minutes 5, requestID }

/-- The refresh token that ends in `c`. -/
def refreshText (c : Char) : String := String.ofList ("r1_".toList ++ List.replicate 42 'A' ++ [c])

/-- The token identifier that ends in `c`. -/
def jtiText (c : Char) : String := String.ofList ("jti_".toList ++ List.replicate 21 'A' ++ [c])

/-- Fixed tokens with these refresh lifetimes. -/
def mintWith (rolling absolute : Int) : MintFunc := fun authority =>
  .ok
    { accessTokenID := 9, jtiHash := hashJTI sha (jtiText 'A'), accessToken := "access"
      idToken := "id", issuedAt := authority.issuedAt
      accessExpiresAt := authority.issuedAt + minutes 5
      idExpiresAt := authority.issuedAt + minutes 5
      initialRefresh := some
        { familyID := 10, tokenID := 11, tokenHash := hashRefreshToken sha (refreshText 'A')
          clearToken := refreshText 'A', expiresAt := authority.issuedAt + rolling
          absoluteExpiresAt := authority.issuedAt + absolute } }

def mint : MintFunc := mintWith (hours 24) (hours 48)

/-- The presentation of the sample code. -/
def codeInput (now : Time) : ExchangeInput :=
  { codeHash := digest 7, client, redirectURI := "https://client.example/cb"
    codeVerifier := verifier, requestID, now }

def exchange (now : Time) : Call := .exchangeAuthorizationCode (codeInput now) mint

def remintWith (rolling : Int) : RefreshMintFunc := fun authority =>
  .ok
    { accessTokenID := 12, jtiHash := hashJTI sha (jtiText 'Q'), accessToken := "access"
      issuedAt := authority.issuedAt, accessExpiresAt := authority.issuedAt + minutes 5
      replacementTokenID := 13, replacementTokenHash := hashRefreshToken sha (refreshText 'E')
      replacementClearToken := refreshText 'E'
      replacementExpiresAt := authority.issuedAt + rolling }

def remint : RefreshMintFunc := remintWith (hours 24)

/-- The first refresh token, presented at `now`. -/
def presentation (now : Time) : RefreshInput :=
  { tokenHash := hashRefreshToken sha (refreshText 'A'), client, requestedScopes := none, requestID
    now }

/-- Its presentation, after its rows were looked up in `seen`. -/
def refresh (now : Time) (seen : Db) : Call :=
  .exchangeRefreshToken (presentation now) remint seen seen

def clientCreated : Entry := .calm sha (.createClient client none (event 1)) (Db.empty .utc)

def flowStarted : Entry :=
  .calm sha (.createAuthTransaction transaction (event 2)) clientCreated.after

def browserKnown : Entry :=
  .calm sha (.createPreAuth ⟨4, digest 4, digest 4, 3, start, start + minutes 5⟩) flowStarted.after

def userRegistered : Entry := .calm sha (.commitRegistration registration) browserKnown.after

def codeIssued : Entry := .calm sha (.issueAuthorizationCode issue) userRegistered.after

def exchanged : Entry := .calm sha (exchange (at' 20)) codeIssued.after

def refreshed : Entry := .calm sha (refresh (at' 40) exchanged.after) exchanged.after

def flow : List Entry := [codeIssued, userRegistered, browserKnown, flowStarted, clientCreated]

theorem tokens_fresh :
    Fresh (states flow.tail codeIssued.before) codeIssued.before codeIssued.after ∧
      Fresh (states flow codeIssued.after) codeIssued.after exchanged.after ∧
      Fresh (states (exchanged :: flow) exchanged.after) exchanged.after refreshed.after := by
  decide +kernel

theorem flow_run : Run sha .utc flow codeIssued.after := by
  have created : Run sha .utc [clientCreated] clientCreated.after :=
    Run.start.quiet _ (by simp [Call.reads]) (by simp [Call.kinds])
  have started : Run sha .utc [flowStarted, clientCreated] flowStarted.after :=
    created.quiet _ (by simp [Call.reads]) (by simp [Call.kinds])
  have known : Run sha .utc [browserKnown, flowStarted, clientCreated] browserKnown.after :=
    started.quiet _ (by simp [Call.reads]) (by simp [Call.kinds])
  have registered : Run sha .utc flow.tail userRegistered.after :=
    known.quiet _ (by simp [Call.reads]) (by simp [Call.kinds])
  exact registered.calm _ (by simp [Call.reads]) tokens_fresh.1

theorem exchanged_run : Run sha .utc (exchanged :: flow) exchanged.after :=
  flow_run.calm _ (by simp [exchange, Call.reads]) tokens_fresh.2.1

theorem refreshed_run : Run sha .utc (refreshed :: exchanged :: flow) refreshed.after :=
  exchanged_run.calm _ (by simp [refresh, Call.reads, states]) tokens_fresh.2.2

end Sample

end OneIssuer
