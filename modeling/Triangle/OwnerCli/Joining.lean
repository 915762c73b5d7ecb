import Triangle.OwnerCli.Replaying

/-!
# What a join keeps

The contracts of `join` and `resumeJoin`. A join may take its journal away only
when no agent has its workload key, or the key is installed.
-/

namespace Triangle.OwnerCli

open Triangle.Std Triangle.Semantics

section

variable {site : Site} {world : World}

/-! ## A redemption in the journal -/

variable {journal : JoinJournal}

theorem persistResult_guarded (kept : Kept site world) {result : JoinResult}
    {controller : ControllerView}
    (assigns : ∀ agent, result.agent = some agent → isAgentId agent.agentId = true →
      ∀ key, journal.workloadKey = some key → world.origin.Assigns agent.agentId key.x) :
    Guarded site world (persistResult journal result controller) fun after outcome =>
      Still world after ∧ (outcome = .ok () → ∀ agent, result.agent = some agent →
        ∀ key, journal.workloadKey = some key → after.Settled key) := by
  refine .bind ((guarded_writeAuthority kept).imp ?_)
  intro first outcome keptFirst stillFirst
  cases outcome with
  | error problem => exact ⟨stillFirst, nofun⟩
  | ok _ =>
  refine .bind ((guarded_writeController keptFirst).imp ?_)
  intro second outcome keptSecond stillSecond
  have still := stillFirst.trans stillSecond
  cases outcome with
  | error problem => exact ⟨still, nofun⟩
  | ok _ =>
  dsimp only
  split
  next noAgent =>
    refine ⟨keptSecond, still, fun _ agent isAgent => ?_⟩
    rw [noAgent] at isAgent
    cases isAgent
  next agent isAgent =>
    refine (installAgent_guarded keptSecond ?_).imp ?_
    · rw [still.origin]
      exact assigns agent isAgent
    · rintro after outcome - ⟨stillAfter, settles⟩
      refine ⟨still.trans stillAfter, fun succeeds other isOther => ?_⟩
      exact settles succeeds

/-- Why the send of a join failed, and what is left then. -/
inductive JoinFailed (site : Site) (world after : World) (journal : JoinJournal) : CliError → Prop
  | refused (status : Nat) (code message : Option String) (home : after.home = world.home)
      (origin : world.mode = .joining → 400 ≤ status → status < 500 →
        after.origin = world.origin ∨ ∀ key, journal.workloadKey = some key →
          ∀ created ∈ after.origin.created, created.2 ≠ key.x) :
      JoinFailed site world after journal (.meshApi status code message)
  | unknown (committed : Bool) : JoinFailed site world after journal (.outcomeUnknown committed)
  | unsaved : JoinFailed site world after journal (.localState true)
  | unremoved (free : IsFree site after "join") : JoinFailed site world after journal .fileFailed

/-- The workload key of a journal is that of the agent in its redemption. -/
theorem IsJoining.draft (isJoining : IsJoining world journal) {key : PrivateJwk}
    (isKey : journal.workloadKey = some key) :
    ∃ draft, journal.body.agent = some draft ∧ key.x = draft.workloadPublicJwk := by
  have paired := isJoining.paired
  rw [JoinDraft.IsPaired, isKey] at paired
  obtain ⟨draft, isDraft, same⟩ := Option.map_eq_some_iff.mp paired
  refine ⟨draft, ?_, same.symm⟩
  rw [isJoining.signs]
  exact isDraft

variable {status : Nat} {code message : Option String}

/-- A redemption that the origin refused was not accepted; one that an intermediary answered
created no agent with the key. -/
theorem redeem_refused {inviteId : String} {choice : Choice} (isJoining : IsJoining world journal)
    (isPossible : IsPossible site world (.redeem inviteId journal.body) choice)
    (accountable : Accountable site world (.redeem inviteId journal.body) choice)
    (isError : choice.redeemed.read true = .error (.meshApi status code message))
    (joining : world.mode = .joining) (least : 400 ≤ status) (most : status < 500) :
    world.redeem site journal.body choice = world.origin ∨
      ∀ key, journal.workloadKey = some key →
        ∀ created ∈ (world.redeem site journal.body choice).created, created.2 ≠ key.x := by
  by_cases ambiguous : status ∈ ambiguous4xx
  · right
    intro key isKey
    obtain ⟨draft, isDraft, same⟩ := isJoining.draft isKey
    rw [same]
    refine (accountable draft isDraft).1 (.inl ⟨joining, ?_⟩)
    rw [Response.status?_of_error isError]
    exact decide_eq_true ambiguous
  · left
    have refused := isPossible (Response.isRefusal_of_definitive isError
      (by simp [isDefinitive, least, most, ambiguous]))
    rw [World.redeem, if_neg]
    simp [refused]

/-- `send`, of the journal of the join. -/
theorem send_guarded (kept : Kept site world)
    (isEntry : world.home.entryOf "join" = some (.join journal))
    (resends : Resends world.begunJoin journal.body) :
    Guarded site world (send journal) fun after result =>
      after.mode = world.mode ∧ after.begunJoin = world.begunJoin ∧
        ∀ problem, result = .error problem → JoinFailed site world after journal problem := by
  have isJoining := (kept.joining "join" journal isEntry).2
  refine .bind (guarded_ask! kept fun choice isPossible accountable => ?_)
  refine ⟨kept.redeem isEntry resends choice, ?_⟩
  have keptSent := kept.redeem isEntry resends choice
  dsimp only [perform]
  cases isRead : choice.redeemed.read true with
  | error problem =>
      refine ⟨rfl, rfl, fun other same => ?_⟩
      obtain rfl := Except.error.inj same
      obtain ⟨committed, rfl⟩ | ⟨status, code, message, rfl⟩ := Response.read_error isRead
      · exact .unknown committed
      · exact .refused status code message rfl
          fun joining least most =>
            redeem_refused isJoining isPossible accountable isRead joining least most
  | ok answer =>
      dsimp only
      split
      next =>
        refine ⟨keptSent, rfl, rfl, ?_⟩
        rintro - ⟨⟩
        exact .unknown true
      next result controller isJoined =>
        refine .bind (.outcome ((persistResult_guarded keptSent ?_).imp ?_))
        · intro agent isAgent isId key isKey
          obtain ⟨draft, isDraft, same⟩ := isJoining.draft isKey
          rw [same]
          refine (accountable draft isDraft).2 agent ?_ isId
          rw [joinedAgent, isRead]
          simp [isJoined, isAgent]
        · rintro after outcome keptAfter ⟨still, settles⟩
          cases outcome with
          | error problem =>
              refine ⟨keptAfter, still.mode, still.begunJoin, ?_⟩
              rintro - ⟨⟩
              exact .unsaved
          | ok _ =>
              have isEntryAfter := (still.entryOf "join").trans isEntry
              have free : IsFree site after "join" := by
                constructor
                · intro old key isOld isKey
                  obtain rfl : .join journal = old :=
                    Option.mem_unique isEntryAfter isOld
                  cases isAgent : result.agent with
                  | some agent => exact settles rfl agent isAgent key isKey
                  | none =>
                      obtain ⟨draft, isDraft, same⟩ := isJoining.draft isKey
                      intro created isCreated sameKey
                      rw [still.origin] at isCreated
                      have omits : omitsAgent choice.redeemed = true := by
                        rw [omitsAgent, isRead]
                        simp [isJoined, isAgent]
                      have different := (accountable draft isDraft).1 (.inr omits) created isCreated
                      exact absurd (sameKey.trans same) different
                · intro old secret isOld isSecret
                  obtain rfl : .join journal = old :=
                    Option.mem_unique isEntryAfter isOld
                  cases isSecret
              refine .bind ((guarded_removeJournal keptAfter fun _ => free).imp ?_)
              intro final removal keptFinal removed
              have mode := removed.mode.trans still.mode
              have begunJoin := removed.begunJoin.trans still.begunJoin
              cases removal with
              | error problem =>
                  refine ⟨mode, begunJoin, fun other same => ?_⟩
                  obtain rfl := Except.error.inj same
                  obtain rfl := removed.failure problem rfl
                  exact .unremoved (removed.isFree free)
              | ok _ => exact ⟨keptFinal, mode, begunJoin, nofun⟩

/-! ## Signing -/

/-- No agent has the workload key of the join in the journal. -/
def World.JoinUnused (world : World) : Prop :=
  ∀ old key, world.home.entryOf "join" = some old → old.workloadKey = some key →
    ∀ created ∈ world.origin.created, created.2 ≠ key.x

theorem World.JoinUnused.isFree (unused : world.JoinUnused) (kept : Kept site world) :
    IsFree site world "join" := by
  constructor
  · intro old key isOld isKey created isCreated same
    exact absurd same (unused old key isOld isKey created isCreated)
  · intro old secret isOld isSecret
    obtain ⟨journal, rfl⟩ := kept.join old isOld
    cases isSecret

/-- What `buildRedemption` signs. -/
theorem buildRedemption_ok {draft : JoinDraft} {challenge : Challenge} {body : Redemption}
    (builds : buildRedemption site draft.authority draft.inviteId draft.inviteSecret challenge
      draft.ownerKey draft.deviceLabel draft.displayName draft.agent draft.workloadKey = .ok body) :
    draft.Signs body := by
  obtain ⟨-, builds⟩ := require_bind_ok.mp builds
  obtain ⟨-, returns⟩ := require_bind_ok.mp builds
  obtain rfl := Except.ok.inj returns
  rfl

/-- What is left when the signing and sending of a draft failed. -/
structure SignFailed (site : Site) (world after : World) (problem : CliError) : Prop where
  frees : problem.freesJoin = true → IsFree site after "join"
  deviceOnly : isDeviceOnlyRefusal problem = true → after.JoinUnused ∧ after.mode = world.mode ∧
    after.begunJoin = world.begunJoin ∧ after.home.ownerKey = world.home.ownerKey

/-- Only an answer with status 400 is a refusal of an agent. -/
theorem status_of_deviceOnlyRefusal
    (refuses : isDeviceOnlyRefusal (.meshApi status code message) = true) : status = 400 := by
  unfold isDeviceOnlyRefusal at refuses
  split at refuses
  next same => exact (CliError.meshApi.inj same).1
  next => cases refuses

/-- `signAndSend`, over a journal whose key the draft has, or no agent. -/
theorem signAndSend_guarded (kept : Kept site world) {draft : JoinDraft}
    (ownerKey : world.home.ownerKey = some draft.ownerKey) (paired : draft.IsPaired)
    (keeps : ∀ old key, world.home.entryOf "join" = some old → old.workloadKey = some key →
      draft.workloadKey = some key ∨ ∀ created ∈ world.origin.created, created.2 ≠ key.x)
    (resigns : ∀ journal, world.begunJoin = some (.join journal) → journal.toJoinDraft = draft) :
    Guarded site world (signAndSend site draft) fun after result =>
      ∀ problem, result = .error problem → world.mode = .joining → world.JoinUnused →
        (∀ key, draft.workloadKey = some key →
          ∀ created ∈ world.origin.created, created.2 ≠ key.x) →
        SignFailed site world after problem := by
  have unwritten : ∀ problem, world.JoinUnused → SignFailed site world world problem :=
    fun problem unused => ⟨fun _ => unused.isFree kept, fun _ => ⟨unused, rfl, rfl, rfl⟩⟩
  refine .bind (guarded_inviteChallenge kept fun response => ?_)
  cases response.challenge with
  | error cause => exact fun problem _ _ unused _ => unwritten problem unused
  | ok challenge =>
  refine .bind (guarded_ofExcept kept ?_)
  split
  next body builds =>
    have signs := buildRedemption_ok builds
    have isJoining : IsJoining world { draft with body } := ⟨ownerKey, signs, paired⟩
    have writable : IsWritable site world "join" (.join { draft with body }) := by
      constructor
      · exact keeps
      · intro old secret isOld isSecret
        obtain ⟨journal, rfl⟩ := kept.join old isOld
        cases isSecret
      · exact fun _ => ⟨_, rfl⟩
      · intro journal same
        obtain rfl := Entry.join.inj same
        exact ⟨rfl, isJoining⟩
      · exact fun filed isOperation => nomatch isOperation
    have keptPut := kept.put writable
    have unusedPut : world.JoinUnused → (∀ key, draft.workloadKey = some key →
        ∀ created ∈ world.origin.created, created.2 ≠ key.x) →
        World.JoinUnused
          { world with home := world.home.put "join" (.join { draft with body }) } := by
      intro _ unusedKey old key isOld isKey
      simp only [Home.entryOf_put, if_true, Option.some.injEq] at isOld
      subst isOld
      exact unusedKey key isKey
    refine .bind (guarded_writeJournal kept writable ?_ ?_ ?_)
    · have resends : Resends world.begunJoin body := by
        intro journal isBegun
        rw [resigns journal isBegun]
        exact .inr signs
      refine (send_guarded keptPut (by simp) resends).imp ?_
      rintro after result keptAfter ⟨mode, begunJoin, fails⟩ problem isError joining unused
        unusedKey
      have unusedSent := unusedPut unused unusedKey
      cases fails problem isError with
      | refused status code message home origin =>
          have unusedAfter : 400 ≤ status → status < 500 → after.JoinUnused := by
            intro least most old key isOld isKey
            rw [home] at isOld
            obtain same | unusedKey := origin joining least most
            · rw [same]
              exact unusedSent old key isOld isKey
            · simp only [Home.entryOf_put, if_true, Option.some.injEq] at isOld
              subst isOld
              exact unusedKey key isKey
          constructor
          · intro frees
            simp only [CliError.freesJoin, Bool.and_eq_true, decide_eq_true_eq] at frees
            exact (unusedAfter frees.1 frees.2).isFree keptAfter
          · intro refuses
            obtain rfl := status_of_deviceOnlyRefusal refuses
            refine ⟨unusedAfter (by omega) (by omega), mode, begunJoin, ?_⟩
            rw [home]
            rfl
      | unknown | unsaved => exact ⟨nofun, nofun⟩
      | unremoved free => exact ⟨fun _ => free, nofun⟩
    · intro problem isError _ unused unusedKey
      obtain rfl := Except.error.inj isError
      exact ⟨fun _ => (unusedPut unused unusedKey).isFree keptPut, nofun⟩
    · exact fun problem _ _ unused _ => unwritten problem unused
  next => exact fun problem _ _ unused _ => unwritten problem unused

/-- `attempt`: the second draft has no workload key. -/
theorem attempt_guarded (kept : Kept site world) {draft : JoinDraft} {device : Bool}
    (joining : world.mode = .joining) (begun : world.begunJoin = none)
    (ownerKey : world.home.ownerKey = some draft.ownerKey) (paired : draft.IsPaired)
    (unused : world.JoinUnused)
    (unusedKey : ∀ key, draft.workloadKey = some key →
      ∀ created ∈ world.origin.created, created.2 ≠ key.x) :
    Guarded site world (attempt site device draft) fun after result =>
      ∀ problem, result = .error problem → problem.freesJoin = true →
        IsFree site after "join" := by
  refine .bind (.outcome ((signAndSend_guarded kept ownerKey paired ?_ ?_).imp ?_))
  · exact fun old key isOld isKey => .inr (unused old key isOld isKey)
  · intro journal isBegun
    rw [begun] at isBegun
    cases isBegun
  · intro after result keptAfter fails
    cases result with
    | ok joined => exact ⟨keptAfter, nofun⟩
    | error problem =>
        have failed := fails problem rfl joining unused unusedKey
        dsimp only
        split
        · refine ⟨keptAfter, fun other same frees => ?_⟩
          obtain rfl := Except.error.inj same
          exact failed.frees frees
        next retries =>
          obtain ⟨-, refuses⟩ := not_or.mp retries
          obtain ⟨unusedAfter, mode, begunJoin, sameKey⟩ :=
            failed.deviceOnly (Bool.not_eq_false _ ▸ refuses)
          refine (@signAndSend_guarded site after keptAfter draft.deviceOnly
            (sameKey.trans ownerKey) rfl ?_ ?_).imp ?_
          · exact fun old key isOld isKey => .inr (unusedAfter old key isOld isKey)
          · intro journal isBegun
            rw [begunJoin, begun] at isBegun
            cases isBegun
          · intro final result keptFinal fails other isError frees
            refine (fails other isError (mode.trans joining) unusedAfter ?_).frees frees
            exact nofun

/-! ## The commands -/

/-- `ensureOwnerKey`: the key that it returns is in its file. -/
theorem ensureOwnerKey_guarded (kept : Kept site world) :
    Guarded site world ensureOwnerKey fun after result =>
      Still world after ∧ ∀ key, result = .ok key → after.home.ownerKey = some key := by
  refine .bind (guarded_readOwnerKey kept ?_ ⟨.refl world, nofun⟩)
  dsimp only
  split
  next key isKey =>
    refine ⟨kept, .refl world, fun other same => ?_⟩
    obtain rfl := Except.ok.inj same
    exact isKey
  next isNone =>
    refine .bind (guarded_ask kept fun choice _ _ => ⟨kept, ?_⟩)
    refine .bind ((guarded_writeOwnerKeyFile kept isNone).imp ?_)
    rintro after result keptAfter ⟨still, writes⟩
    cases result with
    | error problem => exact ⟨still, nofun⟩
    | ok _ =>
        refine ⟨keptAfter, still, fun other same => ?_⟩
        obtain rfl := Except.ok.inj same
        exact writes rfl

theorem newWorkloadKey_guarded (kept : Kept site world) (device : Bool) :
    Guarded site world (newWorkloadKey device) fun after result =>
      after = world ∧ ∀ key, result = .ok (some key) →
        ∀ created ∈ world.origin.created, created.2 ≠ key.x := by
  rw [newWorkloadKey]
  split
  · exact ⟨kept, rfl, fun key same => nomatch Except.ok.inj same⟩
  · refine .bind (guarded_ask kept fun choice isPossible _ => ⟨kept, kept, rfl, ?_⟩)
    intro key same
    obtain rfl := Option.some.inj (Except.ok.inj same)
    exact isPossible

theorem joinDraft_isPaired (options : JoinOptions) (ownerKey : PrivateJwk)
    (workloadKey : Option PrivateJwk) : (joinDraft options ownerKey workloadKey).IsPaired := by
  cases workloadKey with
  | none | some => rfl

/-- `join`, begun over the journal that the home has. -/
theorem join_guarded (kept : Kept site world) (options : JoinOptions)
    (joining : world.mode = .joining) (begun : world.begunJoin = world.home.entryOf "join") :
    Guarded site world (join site options) fun _ _ => True := by
  refine .bind (guarded_readJournal kept ?_ trivial)
  refine .bind (.ensure kept (fun absent => ?_) fun _ => trivial)
  refine .bind (guarded_readController kept (fun controller? => ?_) trivial)
  refine .bind (.ensure kept (fun _ => ?_) fun _ => trivial)
  refine .bind ((ensureOwnerKey_guarded kept).imp ?_)
  rintro keyed result keptKeyed ⟨still, isOwnerKey⟩
  cases result with
  | error problem => trivial
  | ok ownerKey =>
  refine .bind ((newWorkloadKey_guarded keptKeyed options.device).imp ?_)
  rintro ready result - ⟨rfl, unusedKey⟩
  cases result with
  | error problem => trivial
  | ok workloadKey =>
  have unused : ready.JoinUnused := by
    intro old key isOld
    rw [still.entryOf, absent] at isOld
    cases isOld
  have attempts := @attempt_guarded site ready keptKeyed (joinDraft options ownerKey workloadKey)
    options.device (still.mode.trans joining) (still.begunJoin.trans (begun.trans absent))
    (isOwnerKey ownerKey rfl) (joinDraft_isPaired options ownerKey workloadKey) unused
    fun key isKey => unusedKey key (congrArg Except.ok isKey)
  refine .bind (.outcome (attempts.imp ?_))
  intro after result keptAfter frees
  cases result with
  | ok joined => exact ⟨keptAfter, trivial⟩
  | error problem =>
      dsimp only
      split
      next isFreed =>
        refine .bind ((guarded_removeJournal keptAfter fun _ => frees problem rfl isFreed).imp ?_)
        intro final result keptFinal _
        cases result with
        | error cause => trivial
        | ok _ => exact ⟨keptFinal, trivial⟩
      next => exact ⟨keptAfter, trivial⟩

/-- An error that lets a join be signed again is the refusal of the one before. -/
theorem JoinFailed.home_of_notRedeemed {after : World} {problem : CliError}
    (failed : JoinFailed site world after journal problem)
    (notRedeemed : wasNotRedeemed problem = true) : after.home = world.home := by
  cases failed with
  | refused status code message home origin => exact home
  | unknown | unsaved | unremoved => cases notRedeemed

/-- `resumeJoin`, begun over the journal that the home has. -/
theorem resumeJoin_guarded (kept : Kept site world)
    (begun : world.begunJoin = world.home.entryOf "join") :
    Guarded site world (resumeJoin site) fun _ _ => True := by
  refine .bind (guarded_readJournal kept ?_ trivial)
  dsimp only
  split
  next journal isEntry =>
    have isBegun := begun.trans isEntry
    have resends : Resends world.begunJoin journal.body := by
      intro other isOther
      obtain rfl := Entry.join.inj (Option.mem_unique isBegun isOther)
      exact .inl rfl
    refine .bind (.outcome ((send_guarded kept isEntry resends).imp ?_))
    rintro after result keptAfter ⟨mode, begunJoin, fails⟩
    cases result with
    | ok joined => exact ⟨keptAfter, trivial⟩
    | error problem =>
        dsimp only
        split
        next notRedeemed =>
          have home := (fails problem rfl).home_of_notRedeemed notRedeemed
          have isEntryAfter : after.home.entryOf "join" = some (.join journal) := by
            rw [home]
            exact isEntry
          have isJoining := (keptAfter.joining "join" journal isEntryAfter).2
          refine .bind ((signAndSend_guarded keptAfter isJoining.ownerKey isJoining.paired
            ?_ ?_).imp ?_)
          · intro old key isOld isKey
            obtain rfl : .join journal = old := Option.mem_unique isEntryAfter isOld
            exact .inl isKey
          · intro other isOther
            rw [begunJoin] at isOther
            obtain rfl := Entry.join.inj (Option.mem_unique isBegun isOther)
            rfl
          · intro final result keptFinal _
            cases result with
            | error cause => trivial
            | ok _ => exact ⟨keptFinal, trivial⟩
        next => exact ⟨keptAfter, trivial⟩
  next => exact ⟨kept, trivial⟩

end

end Triangle.OwnerCli
