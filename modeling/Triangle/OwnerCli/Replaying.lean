import Triangle.OwnerCli.Sending

/-!
# What a replay keeps

The contracts of the permission updates, whose entries hold no key, and of the
replays of `triangle resume` and `triangle setup`.
-/

namespace Triangle.OwnerCli

open Triangle.Std Triangle.Semantics

section

variable {site : Site} {world : World} {name : String}

/-! ## Permissions -/

theorem readPermissions_guarded (kept : Kept site world) (session : Session) (agentId : String) :
    Guarded site world (readPermissions session agentId) fun after _ => Still world after := by
  refine .bind ((ownerGate_guarded kept session).imp ?_)
  intro gated result keptGated still
  cases result with
  | error problem => exact still
  | ok _ =>
  refine .bind (guarded_readPermissionsView keptGated fun response => ?_)
  cases response.read false with
  | error problem => exact still
  | ok view? =>
  refine .bind (guarded_ofExcept keptGated ?_)
  split
  next view _ =>
    refine .bind (.ensure keptGated (fun _ => ?_) fun _ => still)
    refine .bind ((guarded_writeCache keptGated).imp ?_)
    intro after result keptAfter stillAfter
    cases result with
    | error problem => exact still.trans stillAfter
    | ok _ => exact ⟨keptAfter, still.trans stillAfter⟩
  next => exact still

/-- The entry of a name, if there is one, holds no key. -/
def World.IsKeyless (world : World) (name : String) : Prop :=
  ∀ entry, world.home.entryOf name = some entry →
    entry.workloadKey = none ∧ entry.createdSecret = none

theorem World.IsKeyless.isFree (keyless : world.IsKeyless name) : IsFree site world name := by
  constructor
  · intro old key isOld isKey
    rw [(keyless old isOld).1] at isKey
    cases isKey
  · intro old secret isOld isSecret
    rw [(keyless old isOld).2] at isSecret
    cases isSecret

variable {entry : PermissionsEntry}

theorem keyless_put {home : Home} :
    World.IsKeyless { world with home := home.put name (.permissions entry) } name := by
  intro old isOld
  simp only [Home.entryOf_put, if_true, Option.some.injEq] at isOld
  subst isOld
  exact ⟨rfl, rfl⟩

theorem keyless_of_permissions (isEntry : world.home.entryOf name = some (.permissions entry)) :
    world.IsKeyless name := by
  intro old isOld
  obtain rfl : .permissions entry = old := Option.mem_unique isEntry isOld
  exact ⟨rfl, rfl⟩

/-- An update is written where nothing is that holds a key. -/
theorem permissions_isWritable {entry : PermissionsEntry} (keyless : world.IsKeyless name)
    (notJoin : name ≠ "join") : IsWritable site world name (.permissions entry) := by
  constructor
  · intro old key isOld isKey
    rw [(keyless old isOld).1] at isKey
    cases isKey
  · intro old secret isOld isSecret
    rw [(keyless old isOld).2] at isSecret
    cases isSecret
  · exact fun isJoin => absurd isJoin notJoin
  · exact nofun
  · exact fun filed isOperation => nomatch isOperation

/-- After its removal was tried, an entry without a key is gone or as it was. -/
theorem guarded_removeKeyless (kept : Kept site world) (keyless : world.IsKeyless name) :
    Guarded site world (ask! (.removeJournal name) id) fun after _ => after.IsKeyless name := by
  refine (guarded_removeJournal kept fun _ => keyless.isFree).imp ?_
  intro after result _ removed entry isEntry
  obtain rfl | absent := removed.entry
  · exact keyless entry isEntry
  · rw [absent] at isEntry
    cases isEntry

/-- `sendJournaled` of the update that a journal entry is of. -/
theorem sendPermissions_guarded (kept : Kept site world) {original : Bool}
    (isEntry : world.home.entryOf name = some (.permissions entry)) :
    Guarded site world (sendPermissions name entry original) fun after _ =>
      after.IsKeyless name := by
  have notJoin : name ≠ "join" := by
    rintro rfl
    obtain ⟨journal, isJoin⟩ := kept.join _ isEntry
    cases isJoin
  rw [sendPermissions]
  refine .bind (.outcome (guarded_ask! kept fun choice _ _ => ?_))
  have keptSent := kept.update entry.body choice
  refine ⟨keptSent, ?_⟩
  simp only [perform]
  have keyless : World.IsKeyless { world with origin := world.update entry.body choice } name :=
    keyless_of_permissions isEntry
  cases choice.view.read true with
  | error problem =>
      refine .bind ?_
      have keeps : Guarded site { world with origin := world.update entry.body choice }
          (keepOrFree name (.permissions entry) original problem) fun after _ =>
          after.IsKeyless name := by
        cases problem with
        | outcomeUnknown committed =>
            rw [keepOrFree]
            split
            · exact ⟨keptSent, keyless⟩
            · exact guarded_writeJournal keptSent (permissions_isWritable keyless notJoin)
                keyless_put keyless_put keyless
        | meshApi status code message =>
            rw [keepOrFree]
            split
            · exact guarded_removeKeyless keptSent keyless
            · exact ⟨keptSent, keyless⟩
        | localState | typeError | fileFailed => exact ⟨keptSent, keyless⟩
      refine keeps.imp ?_
      intro after result keptAfter keylessAfter
      cases result with
      | error cause => exact keylessAfter
      | ok _ => exact ⟨keptAfter, keylessAfter⟩
  | ok answer =>
      have removes : ∀ between, Kept site between → between.IsKeyless name →
          Guarded site between
            (do
              ask! (.removeJournal name) id
              pure answer)
            fun after _ => after.IsKeyless name := by
        intro between keptBetween keylessBetween
        refine .bind ((guarded_removeKeyless keptBetween keylessBetween).imp ?_)
        intro after result keptAfter keylessAfter
        cases result with
        | error cause => exact keylessAfter
        | ok _ => exact ⟨keptAfter, keylessAfter⟩
      cases answer with
      | none => exact removes _ keptSent keyless
      | some view =>
          dsimp only
          split
          · refine .bind ((guarded_writeCache keptSent).imp ?_)
            intro after result keptAfter still
            have keylessAfter : after.IsKeyless name :=
              keyless_of_permissions ((still.entryOf name).trans isEntry)
            cases result with
            | error cause => exact keylessAfter
            | ok _ => exact removes after keptAfter keylessAfter
          · exact removes _ keptSent keyless

/-- The name of an update is not that of the join. -/
theorem permName_ne_join (key : String) : "perm-" ++ key ≠ "join" := by
  intro same
  have chars := congrArg String.toList same
  simp at chars

theorem buildPermissionsUpdate_ok {authority controllerId agentId idempotencyKey : String}
    {ownerKey : PrivateJwk} {challenge : Challenge} {expectedRevision : Int}
    {permissions : List (String × Bool)} {body : PermissionsBody}
    (builds : buildPermissionsUpdate site authority controllerId ownerKey agentId challenge
      expectedRevision permissions idempotencyKey = .ok body) :
    body.idempotencyKey = idempotencyKey := by
  obtain ⟨-, returns⟩ := require_bind_ok.mp builds
  obtain rfl := Except.ok.inj returns
  rfl

section

variable (kept : Kept site world)
include kept

theorem setPermissions_guarded (agentId : String) (changes : List (String × Bool)) :
    Guarded site world (setPermissions site agentId changes) fun _ _ => True := by
  refine .bind ((openSession_guarded kept).imp ?_)
  rintro opened result - rfl
  cases result with
  | error problem => trivial
  | ok session =>
  refine .bind ((readPermissions_guarded kept session agentId).imp ?_)
  intro read result keptRead _
  cases result with
  | error problem => trivial
  | ok current =>
  refine .bind (.ensure keptRead (fun _ => ?_) fun _ => trivial)
  dsimp only
  split
  · exact ⟨keptRead, trivial⟩
  · refine .bind (guarded_permissionsChallenge keptRead fun response => ?_)
    cases response.challenge with
    | error problem => trivial
    | ok challenge =>
    refine .bind (guarded_ask keptRead fun choice isPossible _ => ⟨keptRead, ?_⟩)
    refine .bind (guarded_ofExcept keptRead ?_)
    split
    next body builds =>
      have isKey := buildPermissionsUpdate_ok builds
      have keyless : read.IsKeyless ("perm-" ++ body.idempotencyKey) := by
        intro entry isEntry
        rw [isKey] at isEntry
        exact absurd ((Option.isNone_iff_eq_none.mp isPossible.2.1).symm.trans isEntry) (by simp)
      have writable := @permissions_isWritable site read ("perm-" ++ body.idempotencyKey)
        ⟨agentId, "/api/v1/agents/" ++ agentId ++ "/permissions", body, false⟩ keyless
        (permName_ne_join _)
      refine .bind (guarded_writeJournal keptRead writable ?_ trivial trivial)
      refine .bind (.outcome ((sendPermissions_guarded (keptRead.put writable) (by simp)).imp ?_))
      intro sent result keptSent _
      cases result with
      | ok _ => exact ⟨keptSent, trivial⟩
      | error problem =>
          dsimp only
          split
          · exact ⟨keptSent, trivial⟩
          · refine .bind (.outcome ((readPermissions_guarded keptSent session agentId).imp ?_))
            exact fun after result keptAfter _ => ⟨keptAfter, trivial⟩
          · exact ⟨keptSent, trivial⟩
    next => trivial

/-! ## Replays -/

/-- `replayOperation`. What it retains is in the journal as before, and settled. -/
theorem replayOperation_guarded (session : Session) {retain : Bool}
    (noSecret : retain = false → ∀ entry, world.home.entryOf name = some (.operation entry) →
      entry.inviteSecret = none) :
    Guarded site world (replayOperation session name retain) fun after result =>
      (∀ entry, world.home.entryOf name = some (.permissions entry) → after.IsKeyless name) ∧
        (retain = true → ∀ replayed, result = .ok replayed →
          ∀ entry, world.home.entryOf name = some (.operation entry) →
            after.home.entryOf name = some (.operation entry) ∧
              ∀ key, entry.workloadKey = some key → after.Settled key) := by
  refine .bind (guarded_readJournal kept ?_ ?_)
  · dsimp only
    split
    next entry isEntry =>
      refine .bind ((@sendOperation_guarded site world name kept session.authority entry false retain
        isEntry (fun failed => nomatch failed) fun isSilent => noSecret isSilent entry isEntry).imp ?_)
      intro after result keptAfter retains
      cases result with
      | error problem =>
          refine ⟨fun other isOther => ?_, fun _ replayed failed => nomatch failed⟩
          rw [isEntry] at isOther
          cases isOther
      | ok answer =>
          refine ⟨keptAfter, fun other isOther => ?_, fun isRetained _ _ other isOther => ?_⟩
          · rw [isEntry] at isOther
            cases isOther
          · obtain rfl : entry = other := by simpa [isEntry] using isOther
            exact retains isRetained answer rfl
    next entry isEntry =>
      refine .bind ((sendPermissions_guarded kept isEntry).imp ?_)
      intro after result keptAfter keyless
      cases result with
      | error problem => exact ⟨fun _ _ => keyless, fun _ replayed failed => nomatch failed⟩
      | ok answer =>
          refine ⟨keptAfter, fun _ _ => keyless, fun _ _ _ other isOther => ?_⟩
          rw [isEntry] at isOther
          cases isOther
    next notOperation notPermissions =>
      refine ⟨kept, fun entry isEntry => absurd isEntry (notPermissions entry), ?_⟩
      exact fun _ replayed failed => nomatch failed
  · exact ⟨fun entry isEntry => keyless_of_permissions isEntry,
      fun _ replayed failed => nomatch failed⟩

/-- An entry without a secret to print keeps no secret. -/
theorem Kept.noSecret {entry : OperationEntry}
    (isEntry : world.home.entryOf name = some (.operation entry))
    (nothing : (Entry.operation entry).pendingSecret = none) : entry.inviteSecret = none := by
  cases isSecret : entry.inviteSecret with
  | none => rfl
  | some secret =>
      obtain ⟨notEmpty, isInvite⟩ :=
        (kept.operation name entry isEntry).1.carries.secret secret isSecret
      simp [Entry.pendingSecret, isInvite, isSecret, notEmpty] at nothing

theorem resumeEntry_guarded (session : Session) (name : String) :
    Guarded site world (resumeEntry session name) fun _ _ => True := by
  refine .bind (guarded_readJournal kept ?_ trivial)
  dsimp only
  refine .bind (.outcome ((replayOperation_guarded kept session ?_).imp ?_))
  · intro isSilent entry isEntry
    rw [isEntry] at isSilent
    exact kept.noSecret isEntry (by simpa using isSilent)
  · rintro after result keptAfter ⟨keyless, retains⟩
    cases result with
    | error problem =>
        dsimp only
        split
        next isConflict =>
          have keylessAfter : after.IsKeyless name := by
            revert isConflict
            cases isEntry : world.home.entryOf name with
            | none => simp [isRevisionConflict]
            | some entry =>
                cases entry with
                | permissions entry => exact fun _ => keyless entry isEntry
                | join | operation | setup => simp [isRevisionConflict]
          refine .bind ((guarded_removeKeyless keptAfter keylessAfter).imp ?_)
          intro removed result keptRemoved _
          cases result with
          | error cause => trivial
          | ok _ =>
              dsimp only
              split
              · refine .bind (.outcome ((readPermissions_guarded keptRemoved session _).imp ?_))
                exact fun final result keptFinal _ =>
                  (guarded_stdout keptFinal).imp fun _ _ _ _ => trivial
              · exact (guarded_stdout keptRemoved).imp fun _ _ _ _ => trivial
        next => exact ⟨keptAfter, trivial⟩
    | ok replayed =>
        dsimp only
        split
        next => exact (guarded_stdout keptAfter).imp fun _ _ _ _ => trivial
        next secret isSecret =>
          obtain ⟨pending, isPending, isSecretOf⟩ := Option.bind_eq_some_iff.mp isSecret
          have isOperation : ∃ entry, pending = .operation entry ∧
              entry.operation = .inviteCreate ∧ entry.inviteSecret = some secret := by
            cases pending with
            | join | permissions | setup => cases isSecretOf
            | operation entry =>
                simp only [Entry.pendingSecret] at isSecretOf
                split at isSecretOf
                next isInvite =>
                  exact ⟨entry, rfl, isInvite, (Option.filter_eq_some_iff.mp isSecretOf).1⟩
                next => cases isSecretOf
          obtain ⟨entry, rfl, isInvite, isKept⟩ := isOperation
          obtain ⟨isEntryAfter, settles⟩ :=
            retains (by rw [isSecret]; rfl) replayed rfl entry isPending
          refine .bind (guarded_ofExcept keptAfter ?_)
          cases links : inviteOutcome session.authority replayed.answer secret with
          | error cause => trivial
          | ok link =>
              refine .bind ((writeLink_guarded keptAfter).imp ?_)
              rintro written result keptWritten ⟨still, writes⟩
              cases result with
              | error cause => trivial
              | ok _ =>
                  have isEntryWritten := (still.entryOf name).trans isEntryAfter
                  refine (guarded_removeJournal keptWritten fun _ => ?_).imp fun _ _ _ _ => trivial
                  constructor
                  · intro old key isOld isKey
                    obtain rfl : .operation entry = old :=
                      Option.mem_unique isEntryWritten isOld
                    have isCreate :=
                      ((kept.operation name entry isPending).1.carries.key key isKey).1
                    rw [isInvite] at isCreate
                    cases isCreate
                  · intro old other isOld isOther _
                    obtain rfl : .operation entry = old :=
                      Option.mem_unique isEntryWritten isOld
                    obtain rfl : secret = other :=
                      Option.mem_unique isKept isOther
                    obtain ⟨base, same⟩ := inviteOutcome_ok links
                    exact ⟨link, writes rfl, base, secret, same, rfl⟩

theorem resumeEntries_guarded (session : Session) (names : List String) :
    Guarded site world (resumeEntries session names) fun _ _ => True := by
  induction names generalizing world with
  | nil => exact ⟨kept, trivial⟩
  | cons name rest ih =>
      refine .bind ((resumeEntry_guarded kept session name).imp ?_)
      intro after result keptAfter _
      cases result with
      | error problem => trivial
      | ok _ => exact ih keptAfter

theorem resume_guarded : Guarded site world resume fun _ _ => True := by
  refine .bind ((openSession_guarded kept).imp ?_)
  rintro opened result - rfl
  cases result with
  | error problem => trivial
  | ok session =>
      exact .bind (guarded_listJournal kept
        (fun names => resumeEntries_guarded kept session _) trivial)

theorem replayCreations_guarded (session : Session) (handle : String) (names : List String) :
    Guarded site world (replayCreations session handle names) fun _ _ => True := by
  induction names generalizing world with
  | nil => exact ⟨kept, trivial⟩
  | cons name rest ih =>
      refine .bind (guarded_readJournal kept ?_ trivial)
      dsimp only
      split
      next entry isEntry =>
        split
        next isCreate =>
          split
          next draft isDraft =>
            split
            next =>
              refine .bind ((replayOperation_guarded kept session ?_).imp ?_)
              · intro _ other isOther
                obtain rfl : entry = other := by simpa [isEntry] using isOther
                exact kept.noSecret isEntry (by simp [Entry.pendingSecret, isCreate])
              · intro after result keptAfter _
                cases result with
                | error problem => trivial
                | ok _ => exact ih keptAfter
            next => exact ⟨kept, trivial⟩
          next => exact ⟨kept, trivial⟩
        next => exact ih kept
      next => exact ih kept

theorem setupReplay_guarded (handle : String) :
    Guarded site world (setupReplay handle) fun _ _ => True := by
  refine .bind ((openSession_guarded kept).imp ?_)
  rintro opened result - rfl
  cases result with
  | error problem => trivial
  | ok session =>
      exact .bind (guarded_listJournal kept
        (fun names => replayCreations_guarded kept session handle _) trivial)

end

end

end Triangle.OwnerCli
