import Triangle.OwnerCli.Keys

/-!
# What each effect keeps

One lemma for each way in which a call can change the home or the origin: an
entry is put or dropped, a key is installed, an agent is removed, and a request
is accepted. Together they are the step of the invariant.
-/

namespace Triangle.OwnerCli

open Triangle.Std Triangle.Semantics

section

variable {site : Site} {world : World} {name : String} {entry : Entry}

/-! ## Entries -/

/-- The agents that the origin created with this workload key have it installed. -/
def World.Settled (world : World) (key : PrivateJwk) : Prop :=
  ∀ created ∈ world.origin.created, created.2 = key.x → created.1 ∉ world.origin.deleted →
    world.home.Installed created.1 created.2

/-- The entry of a name can go: its workload key is settled, and its secret was written. -/
structure IsFree (site : Site) (world : World) (name : String) : Prop where
  key : ∀ old key, world.home.entryOf name = some old → old.workloadKey = some key →
    world.Settled key
  secret : ∀ old secret, world.home.entryOf name = some old → old.createdSecret = some secret →
    site.sha256Hex secret ∈ world.origin.invites → world.WroteSecret site (site.sha256Hex secret)

theorem entryOf_of_drop {home : Home} {other : String}
    (isEntry : (home.drop name).entryOf other = some entry) : home.entryOf other = some entry := by
  rw [Home.entryOf_drop] at isEntry
  split at isEntry
  · cases isEntry
  · exact isEntry

/-- An entry that can go is removed. -/
theorem Kept.drop (kept : Kept site world) (free : IsFree site world name) :
    Kept site { world with home := world.home.drop name } := by
  refine kept.of_entries ?_ (fun _ _ => entryOf_of_drop) rfl rfl rfl
  constructor
  · exact kept.owner
  · intro created isCreated notDeleted
    obtain ⟨other, old, key, isEntry, isKey, same⟩ | rest :=
      kept.workload created isCreated notDeleted
    · by_cases sameName : other = name
      · subst sameName
        exact .inr (.inl (free.key old key isEntry isKey created isCreated same.symm notDeleted))
      · exact .inl ⟨other, old, key, by simp [sameName, isEntry], isKey, same⟩
    · exact .inr rest
  · intro hash isInvite
    obtain ⟨other, old, secret, isEntry, isSecret, same⟩ | rest := kept.secret hash isInvite
    · by_cases sameName : other = name
      · subst sameName
        subst same
        exact .inr (.inl (free.secret old secret isEntry isSecret isInvite))
      · exact .inl ⟨other, old, secret, by simp [sameName, isEntry], isSecret, same⟩
    · exact .inr rest
  · exact kept.operations_resent
  · exact kept.joins_resent

/-- An entry that the user abandons is removed. -/
theorem Kept.abandon (kept : Kept site world) (name : String) :
    Kept site
      { world with
        home := world.home.drop name
        abandoned := (world.home.entryOf name).toList ++ world.abandoned } := by
  refine kept.of_entries ?_ (fun _ _ => entryOf_of_drop) rfl rfl rfl
  constructor
  · exact kept.owner
  · intro created isCreated notDeleted
    obtain ⟨other, old, key, isEntry, isKey, same⟩ | installed | ⟨old, isOld, holds⟩ :=
      kept.workload created isCreated notDeleted
    · by_cases sameName : other = name
      · subst sameName
        exact .inr (.inr ⟨old, by simp [isEntry], key, isKey, same⟩)
      · exact .inl ⟨other, old, key, by simp [sameName, isEntry], isKey, same⟩
    · exact .inr (.inl installed)
    · exact .inr (.inr ⟨old, List.mem_append_right _ isOld, holds⟩)
  · intro hash isInvite
    obtain ⟨other, old, secret, isEntry, isSecret, same⟩ | wrote | ⟨old, isOld, holds⟩ :=
      kept.secret hash isInvite
    · by_cases sameName : other = name
      · subst sameName
        exact .inr (.inr ⟨old, by simp [isEntry], secret, isSecret, same⟩)
      · exact .inl ⟨other, old, secret, by simp [sameName, isEntry], isSecret, same⟩
    · exact .inr (.inl wrote)
    · exact .inr (.inr ⟨old, List.mem_append_right _ isOld, holds⟩)
  · exact kept.operations_resent
  · exact kept.joins_resent

/-- An entry may be written over what its name has: what is lost was never used. -/
structure IsWritable (site : Site) (world : World) (name : String) (entry : Entry) : Prop where
  key : ∀ old key, world.home.entryOf name = some old → old.workloadKey = some key →
    entry.workloadKey = some key ∨ ∀ created ∈ world.origin.created, created.2 ≠ key.x
  secret : ∀ old secret, world.home.entryOf name = some old → old.createdSecret = some secret →
    entry.createdSecret = some secret
  join : name = "join" → ∃ journal, entry = .join journal
  joining : ∀ journal, entry = .join journal → name = "join" ∧ IsJoining world journal
  operation : ∀ filed, entry = .operation filed → IsFiled site name filed ∧
    ∀ sent ∈ world.sentOperations, sent.idempotencyKey = filed.body.idempotencyKey →
      sent = filed.body

section

variable (kept : Kept site world)
include kept

/-- An entry is written. -/
theorem Kept.put (writable : IsWritable site world name entry) :
    Kept site { world with home := world.home.put name entry } := by
  constructor
  · constructor
    · exact kept.owner
    · intro created isCreated notDeleted
      obtain ⟨other, old, key, isEntry, isKey, same⟩ | rest :=
        kept.workload created isCreated notDeleted
      · by_cases sameName : other = name
        · subst sameName
          obtain keeps | unused := writable.key old key isEntry isKey
          · exact .inl ⟨other, entry, key, by simp, keeps, same⟩
          · exact absurd same.symm (unused created isCreated)
        · exact .inl ⟨other, old, key, by simp [sameName, isEntry], isKey, same⟩
      · exact .inr rest
    · intro hash isInvite
      obtain ⟨other, old, secret, isEntry, isSecret, same⟩ | rest := kept.secret hash isInvite
      · by_cases sameName : other = name
        · subst sameName
          exact .inl ⟨other, entry, secret, by simp, writable.secret old secret isEntry isSecret,
            same⟩
        · exact .inl ⟨other, old, secret, by simp [sameName, isEntry], isSecret, same⟩
      · exact .inr rest
    · exact kept.operations_resent
    · exact kept.joins_resent
  · intro old isEntry
    simp only [Home.entryOf_put] at isEntry
    split at isEntry
    next isJoin =>
      obtain rfl := Option.some.inj isEntry
      exact writable.join isJoin.symm
    next => exact kept.join old isEntry
  · intro other journal isEntry
    simp only [Home.entryOf_put] at isEntry
    split at isEntry
    next same =>
      subst same
      obtain ⟨isJoin, isJoining⟩ := writable.joining journal (Option.some.inj isEntry)
      exact ⟨isJoin, isJoining.congr rfl⟩
    next =>
      obtain ⟨isJoin, isJoining⟩ := kept.joining other journal isEntry
      exact ⟨isJoin, isJoining.congr rfl⟩
  · intro other old isEntry
    simp only [Home.entryOf_put] at isEntry
    split at isEntry
    next same =>
      subst same
      exact writable.operation old (Option.some.inj isEntry)
    next => exact kept.operation other old isEntry
  · exact kept.unique

/-! ## Keys -/

/-- The owner key of a device that has none is written. -/
theorem Kept.writeOwnerKey (none : world.home.ownerKey = none) (key : PrivateJwk) :
    Kept site { world with home := { world.home with ownerKey := some key } } := by
  constructor
  · constructor
    · intro x isOwner
      obtain ⟨other, isKey, -⟩ := kept.owner x isOwner
      rw [none] at isKey
      cases isKey
    · exact kept.workload
    · exact kept.secret
    · exact kept.operations_resent
    · exact kept.joins_resent
  · exact kept.join
  · intro other journal isEntry
    obtain ⟨-, isJoining⟩ := kept.joining other journal isEntry
    have isKey := isJoining.ownerKey
    rw [none] at isKey
    cases isKey
  · exact kept.operation
  · exact kept.unique

/-- A workload key is installed under the id that the origin assigned. -/
theorem Kept.install {agentId : String} {key : PrivateJwk}
    (assigns : world.origin.Assigns agentId key.x) :
    Kept site
      { world with home := { world.home with
          workloadKeys := Function.update world.home.workloadKeys agentId (some key) } } := by
  refine kept.of_entries ?_ (fun _ _ => id) rfl rfl rfl
  constructor
  · exact kept.owner
  · intro created member notDeleted
    by_cases same : created.1 = agentId
    · have sameKey := (assigns created member).mp same
      exact .inr (.inl ⟨key, by simp [same], sameKey.symm⟩)
    · refine (kept.workload created member notDeleted).imp_right (Or.imp_left ?_)
      exact fun ⟨other, isKey, sameKey⟩ => ⟨other, by simp [same, isKey], sameKey⟩
  · exact kept.secret
  · exact kept.operations_resent
  · exact kept.joins_resent

/-- An agent that the origin deleted, or never created, is removed. -/
theorem Kept.removeAgent {agentId : String}
    (gone : ∀ created ∈ world.origin.created, created.1 = agentId →
      created.1 ∈ world.origin.deleted) :
    Kept site
      { world with home := { world.home with
          agents := Function.update world.home.agents agentId none
          workloadKeys := Function.update world.home.workloadKeys agentId none
          cache := Function.update world.home.cache agentId none } } := by
  refine kept.of_entries ?_ (fun _ _ => id) rfl rfl rfl
  constructor
  · exact kept.owner
  · intro created member notDeleted
    have different : created.1 ≠ agentId :=
      fun same => notDeleted (gone created member same)
    refine (kept.workload created member notDeleted).imp_right (Or.imp_left ?_)
    exact fun ⟨other, isKey, sameKey⟩ => ⟨other, by simp [different, isKey], sameKey⟩
  · exact kept.secret
  · exact kept.operations_resent
  · exact kept.joins_resent

/-! ## Requests -/

/-- The origin accepts one request more. The agent that it creates is new, and its key is held
by an entry. -/
theorem Kept.grow {origin : Origin} (fresh : Option (String × String))
    (owners : ∀ x ∈ origin.owners, x ∈ world.origin.owners ∨
      ∃ key, world.home.ownerKey = some key ∧ key.x = x)
    (created : ∀ agent ∈ origin.created, agent ∈ world.origin.created ∨ fresh = some agent)
    (holds : ∀ agent, fresh = some agent → world.home.HoldsKey agent.2 ∧
      ∀ other ∈ world.origin.created, other.1 ≠ agent.1 ∧ other.2 ≠ agent.2)
    (deleted : ∀ agentId ∈ world.origin.deleted, agentId ∈ origin.deleted)
    (invites : ∀ hash ∈ origin.invites, hash ∈ world.origin.invites ∨
      world.home.HoldsSecret site hash) : Kept site { world with origin } := by
  constructor
  · constructor
    · intro x isOwner
      obtain before | isKey := owners x isOwner
      · exact kept.owner x before
      · exact isKey
    · intro agent isCreated notDeleted
      obtain before | isFresh := created agent isCreated
      · exact kept.workload agent before fun isDeleted => notDeleted (deleted agent.1 isDeleted)
      · exact .inl (holds agent isFresh).1
    · intro hash isInvite
      obtain before | isHeld := invites hash isInvite
      · exact kept.secret hash before
      · exact .inl isHeld
    · exact kept.operations_resent
    · exact kept.joins_resent
  · exact kept.join
  · intro other journal isEntry
    obtain ⟨isJoin, isJoining⟩ := kept.joining other journal isEntry
    exact ⟨isJoin, isJoining.congr rfl⟩
  · exact kept.operation
  · intro first isFirst second isSecond same
    obtain before | isFresh := created first isFirst
    · obtain alsoBefore | alsoFresh := created second isSecond
      · exact kept.unique first before second alsoBefore same
      · have different := (holds second alsoFresh).2 first before
        exact (same.elim different.1 different.2).elim
    · obtain alsoBefore | alsoFresh := created second isSecond
      · have different := (holds first isFresh).2 second alsoBefore
        exact (same.elim (fun same => different.1 same.symm) fun same => different.2 same.symm).elim
      · exact Option.mem_unique isFresh alsoFresh

/-- The redemption in the journal is sent. -/
theorem Kept.redeem {journal : JoinJournal}
    (isEntry : world.home.entryOf "join" = some (.join journal))
    (resends : Resends world.begunJoin journal.body) (choice : Choice) :
    Kept site
      { world with
        origin := world.redeem site journal.body choice
        sentRedemptions := world.sentRedemptions ++ [(world.begunJoin, journal.body)] } := by
  have isJoining := (kept.joining "join" journal isEntry).2
  have grown : Kept site { world with origin := world.redeem site journal.body choice } := by
    rw [World.redeem]
    split
    next accepted =>
      obtain ⟨-, -, -, -, -, mayCreate⟩ := accepted
      refine kept.grow (createdByRedemption (journal.body, choice.joined)) ?_ ?_ ?_ ?_ ?_
      · intro x isOwner
        simp only [Origin.owners, List.map_append, List.mem_append, List.map_cons, List.map_nil,
          List.mem_singleton] at isOwner
        obtain before | rfl := isOwner
        · exact .inl before
        · refine .inr ⟨journal.ownerKey, isJoining.ownerKey, ?_⟩
          rw [isJoining.signs]
          rfl
      · intro agent isCreated
        simp only [Origin.created, List.filterMap_append, List.mem_append, List.mem_filterMap,
          List.mem_singleton] at isCreated ⊢
        obtain (before | ⟨-, rfl, isNew⟩) | before := isCreated
        · exact .inl (.inl before)
        · exact .inr isNew
        · exact .inl (.inr before)
      · intro agent isFresh
        cases isDraft : journal.body.agent with
        | none => simp [createdByRedemption, isDraft] at isFresh
        | some draft =>
            cases isAgent : choice.joined.agent with
            | none => simp [createdByRedemption, isAgent] at isFresh
            | some view =>
                simp only [createdByRedemption, isDraft, isAgent, Option.some.injEq] at isFresh
                subst isFresh
                refine ⟨?_, (mayCreate draft isDraft view isAgent).2.2⟩
                have sameDraft : journal.agent = some draft := by
                  rw [← isDraft, isJoining.signs]
                  rfl
                have paired := isJoining.paired
                rw [JoinDraft.IsPaired, sameDraft] at paired
                obtain ⟨key, isKey, same⟩ := Option.map_eq_some_iff.mp paired.symm
                exact ⟨"join", _, key, isEntry, isKey, same⟩
      · exact fun agentId isDeleted => isDeleted
      · exact fun hash isInvite => .inl isInvite
    next => exact kept
  constructor
  · constructor
    · exact grown.owner
    · exact grown.workload
    · exact grown.secret
    · exact grown.operations_resent
    · intro sent isSent
      obtain before | rfl := List.mem_append.mp isSent |>.imp_right List.mem_singleton.mp
      · exact kept.joins_resent sent before
      · exact resends
  · exact grown.join
  · intro other join isEntry
    obtain ⟨isJoin, isJoining⟩ := grown.joining other join isEntry
    exact ⟨isJoin, isJoining.congr rfl⟩
  · exact grown.operation
  · exact grown.unique

/-- An operation in the journal is sent. -/
theorem Kept.operate {filed : OperationEntry}
    (isEntry : world.home.entryOf name = some (.operation filed)) (choice : Choice) :
    Kept site
      { world with
        origin := world.operate filed.body choice
        sentOperations := world.sentOperations ++ [filed.body] } := by
  obtain ⟨isFiled, sentBefore⟩ := kept.operation name filed isEntry
  have grown : Kept site { world with origin := world.operate filed.body choice } := by
    rw [World.operate]
    split
    next accepted =>
      obtain ⟨-, -, grants⟩ := accepted
      refine kept.grow (createdByOperation (filed.body, choice.granted)) ?_ ?_ ?_ ?_ ?_
      · exact fun x isOwner => .inl isOwner
      · intro agent isCreated
        simp only [Origin.created, List.filterMap_append, List.mem_append, List.mem_filterMap,
          List.mem_singleton] at isCreated ⊢
        obtain before | before | ⟨-, rfl, isNew⟩ := isCreated
        · exact .inl (.inl before)
        · exact .inl (.inr before)
        · exact .inr isNew
      · intro agent isFresh
        unfold createdByOperation at isFresh
        split at isFresh
        next draft view isOperation isParams isAgent =>
          obtain rfl := Option.some.inj isFresh
          dsimp only at isOperation isParams isAgent
          rw [isOperation, isParams] at grants
          obtain ⟨other, isOther, mayCreate⟩ := grants
          obtain rfl : other = view := Option.mem_unique isOther isAgent
          obtain ⟨key, isKey, same⟩ :=
            isFiled.carries.agent (isFiled.operation.symm.trans isOperation) draft isParams
          exact ⟨⟨name, _, key, isEntry, isKey, same⟩, mayCreate.2.2⟩
        next => cases isFresh
      · intro agentId isDeleted
        simp only [Origin.deleted, List.filterMap_append, List.mem_append]
        exact .inl isDeleted
      · intro hash isInvite
        simp only [Origin.invites, List.filterMap_append, List.mem_append, List.mem_filterMap,
          List.mem_singleton] at isInvite
        obtain before | ⟨-, rfl, isNew⟩ := isInvite
        · exact .inl (List.mem_filterMap.mpr before)
        · unfold invitedByOperation at isNew
          split at isNew
          next params isOperation isParams =>
            obtain rfl := Option.some.inj isNew
            obtain ⟨secret, isSecret, same⟩ :=
              isFiled.carries.invite (isFiled.operation.symm.trans isOperation) params isParams
            exact .inr ⟨name, _, secret, isEntry, isSecret, same⟩
          next => cases isNew
    next => exact kept
  have resent : ∀ sent ∈ world.sentOperations ++ [filed.body],
      sent.idempotencyKey = filed.body.idempotencyKey → sent = filed.body := by
    intro sent isSent same
    obtain before | rfl := List.mem_append.mp isSent |>.imp_right List.mem_singleton.mp
    · exact sentBefore sent before same
    · rfl
  constructor
  · constructor
    · exact grown.owner
    · exact grown.workload
    · exact grown.secret
    · intro first isFirst second isSecond same
      obtain before | rfl := List.mem_append.mp isFirst |>.imp_right List.mem_singleton.mp
      · obtain alsoBefore | rfl := List.mem_append.mp isSecond |>.imp_right List.mem_singleton.mp
        · exact kept.operations_resent first before second alsoBefore same
        · exact resent first isFirst same
      · exact (resent second isSecond same.symm).symm
    · exact grown.joins_resent
  · exact grown.join
  · intro other journal isEntry
    obtain ⟨isJoin, isJoining⟩ := grown.joining other journal isEntry
    exact ⟨isJoin, isJoining.congr rfl⟩
  · intro other old isOld
    obtain ⟨alsoFiled, alsoBefore⟩ := kept.operation other old isOld
    refine ⟨alsoFiled, fun sent isSent same => ?_⟩
    obtain before | rfl := List.mem_append.mp isSent |>.imp_right List.mem_singleton.mp
    · exact alsoBefore sent before same
    · have sameName : name = other := by rw [isFiled.name, alsoFiled.name, same]
      subst sameName
      obtain rfl : filed = old := by simpa [isEntry] using isOld
      rfl
  · exact grown.unique

/-- A permission update is sent. -/
theorem Kept.update (body : PermissionsBody) (choice : Choice) :
    Kept site { world with origin := world.update body choice } := by
  rw [World.update]
  split
  · refine kept.grow none ?_ ?_ ?_ ?_ ?_
    · exact fun x isOwner => .inl isOwner
    · exact fun agent isCreated => .inl isCreated
    · exact nofun
    · exact fun agentId isDeleted => isDeleted
    · exact fun hash isInvite => .inl isInvite
  · exact kept

/-- A link is written. -/
theorem Kept.write (link : Option String) :
    Kept site { world with written := link.toList ++ world.written } :=
  kept.congr rfl rfl rfl rfl rfl rfl (fun _ isWritten => List.mem_append_right _ isWritten) rfl

end

end

end Triangle.OwnerCli
