import OneIssuer.Invariants

/-!
# What the tables remember

Two results about every run. `remembers_earlier_states`: a later state remembers an earlier one. The
audit log only grows; users, clients and grants are never lost; a code, family, generation or access
token that is still there is the same row, with its consumption and revocation marks kept, and no
other row takes its place under its identifier or digest. `access_provenance`: behind every access
token of a reachable state stand two steps of the run, one that issued a code to its client for its
user, and a later one that minted the token from that code or from a family founded on it.

**What it does not establish.** That the user asked for the code: the steps are store calls, and what a
handler checked before them is no part of a run.
-/

set_option autoImplicit false

namespace OneIssuer

open Relational Token Store

variable {sha : Sha256} {zone : Zone} {entries past : List Entry} {entry : Entry} {db : Db}

/-! ## Memory -/

/-- What a later state remembers of an earlier one. Sessions and the token tables lose rows to the
cleanup, so for them only the rows that are left are compared. -/
structure Db.Remembers (before after : Db) : Prop where
  events : before.auditEvents <+: after.auditEvents
  users : ∀ old ∈ before.users, ∃ user ∈ after.users, user.id = old.id ∧ UserContinues old user
  clients : ∀ old ∈ before.clients,
    ∃ row ∈ after.clients, row.id = old.id ∧ ClientContinues old row
  grants : ∀ old ∈ before.consentGrants,
    ∃ grant ∈ after.consentGrants, grant.id = old.id ∧ GrantContinues old grant
  codes : Descends AuthorizationCode.id AuthorizationCode.codeHash CodeContinues
    Db.authorizationCodes [before] after
  families : Descends RefreshTokenFamily.id RefreshTokenFamily.id FamilyContinues
    Db.refreshTokenFamilies [before] after
  generations : Descends RefreshToken.id RefreshToken.tokenHash GenerationContinues
    Db.refreshTokens [before] after
  accesses : Descends AccessToken.id AccessToken.jtiHash AccessContinues Db.accessTokens [before] after

/-- The audit log of an earlier state is the start of the last one's. -/
theorem Run.events (run : Run sha zone entries db) :
    ∀ seen ∈ states entries db, seen.auditEvents <+: db.auditEvents := by
  induction run with
  | start =>
    intro seen isStart
    exact List.mem_singleton.mp isStart ▸ List.prefix_refl _
  | step _ took _ _ ih =>
    intro seen inHistory
    rcases List.mem_cons.mp inHistory with rfl | earlier
    · exact List.prefix_refl _
    · exact (ih seen earlier).trans took.evolved.events

theorem remembers_earlier_states (run : Run sha zone entries db) {seen : Db}
    (inStates : seen ∈ states entries db) : seen.Remembers db := by
  have inHistory : ∀ state ∈ [seen], state ∈ states entries db := by
    intro state isSeen
    rw [List.mem_singleton.mp isSeen]
    exact inStates
  exact
    { events := run.events seen inStates
      users := run.kept UserContinues.refl UserContinues.trans (fun _ took => took.evolved.users)
        (fun _ sound => sound.users.distinct) seen inStates
      clients := run.kept ClientContinues.refl ClientContinues.trans
        (fun _ took => took.evolved.clients) (fun _ sound => sound.clients.distinct) seen inStates
      grants := run.kept GrantContinues.refl GrantContinues.trans (fun _ took => took.evolved.grants)
        (fun _ sound => sound.grants.distinct) seen inStates
      codes := fun state isSeen => run.codes state (inHistory state isSeen)
      families := fun state isSeen => run.families state (inHistory state isSeen)
      generations := fun state isSeen => run.generations state (inHistory state isSeen)
      accesses := fun state isSeen => run.accesses state (inHistory state isSeen) }

/-- The state before the sample's code exchange, seen from after its refresh. -/
theorem remembers_before_exchange : Sample.exchanged.before.Remembers Sample.refreshed.after :=
  remembers_earlier_states Sample.refreshed_run (by simp [states])

/-! ## Provenance -/

/-- A step issued a code to the client for the user, under the grant and the session binding. The
client was active then, and the code's redirect URI is one of its own. -/
def Entry.Authorizes (entry : Entry) (userID clientID grantID : Uuid) (binding : Option Uuid) : Prop :=
  ∃ code, entry.Issues code ∧ code.userID = userID ∧ code.clientID = clientID ∧
    code.consentGrantID = grantID ∧ code.sessionBindingID = binding ∧
    ∃ row ∈ entry.before.clients, row.id = clientID ∧ row.status = .active ∧
      code.redirectURI ∈ (entry.before.clientOf row).redirectURIs

theorem Entry.Issues.authorizes {code : AuthorizationCode} (issues : entry.Issues code) :
    entry.Authorizes code.userID code.clientID code.consentGrantID code.sessionBindingID := by
  refine ⟨code, issues, rfl, rfl, rfl, rfl, ?_⟩
  obtain ⟨commit, grant, issued, -, rfl⟩ := issues
  obtain ⟨row, inClients, isRow, active, redirect, -⟩ := issued.client
  exact ⟨row, inClients, isRow, active, redirect⟩

/-- Behind every code stands the step that issued it. -/
theorem Run.code_provenance (run : Run sha zone entries db) {code : AuthorizationCode}
    (member : code ∈ db.authorizationCodes) :
    ∃ issuing ∈ entries,
      issuing.Authorizes code.userID code.clientID code.consentGrantID code.sessionBindingID := by
  obtain ⟨issuing, inRun, first, adds, -, moved⟩ :=
    run.added CodeContinues.refl CodeContinues.trans (fun _ took => took.evolved.codes)
      (fun _ sound => sound.codes.distinct) rfl code member
  obtain ⟨_, _, found⟩ := run.at inRun
  have authorizes := (found.took.issues_of_adds found.before.sound adds).authorizes
  rw [moved.same]
  exact ⟨issuing, inRun, authorizes⟩

/-- A family that a step adds carries the authority of a code that was there. -/
theorem Entry.Ran.code_of_family (took : entry.Ran sha) (sound : entry.before.Sound)
    {family : RefreshTokenFamily}
    (adds : entry.Adds RefreshTokenFamily.id Db.refreshTokenFamilies family) :
    ∃ code ∈ entry.before.authorizationCodes, code.userID = family.userID ∧
      code.clientID = family.clientID ∧ code.consentGrantID = family.consentGrantID ∧
      code.sessionBindingID = some family.sessionBindingID := by
  obtain ⟨member, new⟩ := adds
  cases took.minting sound with
  | none families =>
    obtain ⟨old, inBefore, sameID⟩ := families family member
    exact absurd sameID (new old inBefore)
  | @exchanged _ _ code _ _ _ inCodes _ _ locks _ _ isAfter =>
    rw [isAfter] at member
    rcases List.mem_append.mp member with old | added
    · exact absurd rfl (new family old)
    · obtain ⟨initial, binding, -, isBinding, rfl⟩ := mem_initialFamilies added
      exact ⟨code, inCodes, rfl, rfl, locks.grantID.symm, isBinding⟩
  | rotated _ _ _ _ _ _ _ _ isAfter =>
    rw [isAfter] at member
    exact absurd rfl (new family member)

/-- Behind every family stands the step that issued its code. -/
theorem Run.family_provenance (run : Run sha zone entries db) {family : RefreshTokenFamily}
    (member : family ∈ db.refreshTokenFamilies) :
    ∃ issuing ∈ entries, issuing.Authorizes family.userID family.clientID family.consentGrantID
      (some family.sessionBindingID) := by
  obtain ⟨founding, inRun, first, adds, -, moved⟩ :=
    run.added FamilyContinues.refl FamilyContinues.trans (fun _ took => took.evolved.families)
      (fun _ sound => sound.families.distinct) rfl family member
  obtain ⟨later, past, found⟩ := run.at inRun
  obtain ⟨code, inCodes, user, client, grant, binding⟩ :=
    found.took.code_of_family found.before.sound adds
  obtain ⟨issuing, inPast, authorizes⟩ := found.before.code_provenance inCodes
  rw [moved.same]
  refine ⟨issuing, ?_, ?_⟩
  · rw [found.split]
    exact List.mem_append_right _ (List.mem_cons_of_mem _ inPast)
  · rw [user, client, grant, binding] at authorizes
    exact authorizes

/-- A step of the run minted the token, for an active user, an active client and an unrevoked grant
that covered its scopes, and an earlier step had issued a code for the same user, client, grant and
session binding. -/
def Traced (entries : List Entry) (token : AccessToken) : Prop :=
  ∃ later minting past, entries = later ++ minting :: past ∧
    (∃ first, minting.Adds AccessToken.id Db.accessTokens first ∧ AccessContinues first token ∧
      minting.before.Minted minting.call.now first) ∧
    ∃ issuing ∈ past, issuing.Authorizes token.userID token.clientID token.consentGrantID
      token.sessionBindingID

theorem access_provenance (run : Run sha zone entries db) {token : AccessToken}
    (member : token ∈ db.accessTokens) : Traced entries token := by
  obtain ⟨minting, inRun, first, adds, -, moved⟩ :=
    run.added AccessContinues.refl AccessContinues.trans (fun _ took => took.evolved.accesses)
      (fun _ sound => sound.accesses.distinct) rfl token member
  obtain ⟨later, past, found⟩ := run.at inRun
  have minted : minting.before.Minted minting.call.now first := by
    rcases found.took.access_origin found.before.sound adds.1 with ⟨old, inBefore, sameID, -⟩ | minted
    · exact absurd sameID (adds.2 old inBefore)
    · exact minted
  refine ⟨later, minting, past, found.split, ⟨first, adds, moved, minted⟩, ?_⟩
  rw [moved.same]
  -- The source is a row of the state the step started from, so its own origin lies in `past`.
  rcases minted.source with
    ⟨code, inCodes, -, -, user, client, grant, binding⟩ |
    ⟨family, inFamilies, -, -, user, client, grant, binding⟩
  · obtain ⟨issuing, inPast, authorizes⟩ := found.before.code_provenance inCodes
    rw [user, client, grant, binding] at authorizes
    exact ⟨issuing, inPast, authorizes⟩
  · obtain ⟨issuing, inPast, authorizes⟩ := found.before.family_provenance inFamilies
    rw [user, client, grant, binding] at authorizes
    exact ⟨issuing, inPast, authorizes⟩

/-- The access token of the sample's refresh. -/
theorem refreshed_access_provenance :
    ∃ token ∈ Sample.refreshed.after.accessTokens, token.id = 12 ∧
      Traced (Sample.refreshed :: Sample.exchanged :: Sample.flow) token := by
  obtain ⟨token, member, isToken⟩ :
      ∃ token ∈ Sample.refreshed.after.accessTokens, token.id = 12 := by
    decide +kernel
  exact ⟨token, member, isToken, access_provenance Sample.refreshed_run member⟩

end OneIssuer
