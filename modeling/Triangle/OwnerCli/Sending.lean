import Triangle.OwnerCli.Rules

/-!
# What a session keeps

The contracts of the owner operations. A request is sent only from the journal;
its entry is taken away when the request was refused for good on its first send,
or when its effect is installed and its link is written.
-/

namespace Triangle.OwnerCli

open Triangle.Std Triangle.Semantics

section

variable {site : Site} {world : World} {name : String}

/-! ## A session -/

section

variable (kept : Kept site world)
include kept

theorem openSession_guarded : Guarded site world openSession fun after _ => after = world := by
  refine .bind (guarded_readAuthority kept (fun authority? => ?_) rfl)
  refine .bind (guarded_ofExcept kept ?_)
  split
  · refine .bind (guarded_readController kept (fun controller? => ?_) rfl)
    refine .bind (guarded_readOwnerKey kept ?_ rfl)
    refine .bind (guarded_ofExcept kept ?_)
    split
    · refine .bind (guarded_ofExcept kept ?_)
      split
      · exact ⟨kept, rfl⟩
      · rfl
    · rfl
  · rfl

theorem ownerGate_guarded (session : Session) :
    Guarded site world (ownerGate session) fun after _ => Still world after := by
  rw [ownerGate]
  split
  · refine .bind (guarded_ask kept fun choice _ _ => ⟨kept, ?_⟩)
    simp only [perform]
    split
    · refine .bind (guarded_readController kept (fun record? => ?_) (.refl world))
      exact guarded_writeController kept
    · exact ⟨kept, .refl world⟩
    · exact ⟨kept, .refl world⟩
  · exact .ensure kept (fun _ => .refl world) fun _ => .refl world

/-- A workload key is written under the id that the origin assigned. -/
theorem writeWorkloadKey_guarded {agentId : String} {key? : Option PrivateJwk}
    (assigns : isAgentId agentId = true → ∀ key, key? = some key →
      world.origin.Assigns agentId key.x) :
    Guarded site world (writeWorkloadKey agentId key?) fun after result =>
      Still world after ∧ (result = .ok () →
        isAgentId agentId = true ∧ ∀ key, key? = some key → after.home.Installed agentId key.x) := by
  refine .bind (.ensure kept (fun isId => ?_) fun _ => ⟨.refl world, nofun⟩)
  cases key? with
  | none =>
      exact .bind (guarded_ofExcept kept ⟨.refl world, nofun⟩)
  | some key =>
      refine .bind (guarded_ofExcept kept ?_)
      refine (guarded_writeWorkloadKeyFile kept (assigns isId key rfl)).imp ?_
      rintro after result - ⟨still, installs⟩
      refine ⟨still, fun succeeds => ⟨isId, fun other isKey => ?_⟩⟩
      obtain rfl := Option.some.inj isKey
      exact installs succeeds

theorem writeAgent_guarded {authority : String} {agent : AgentView} {workload : WorkloadView} :
    Guarded site world (writeAgent authority agent workload) fun after _ =>
      Still world after ∧ after.home.workloadKeys = world.home.workloadKeys := by
  refine .bind (.ensure kept (fun _ => ?_) fun _ => ⟨.refl world, rfl⟩)
  exact guarded_writeAgentRecord kept

end

/-- A key that is installed under the id that the origin assigned is settled. -/
theorem Origin.Assigns.settled {agentId : String} {key : PrivateJwk}
    (assigns : world.origin.Assigns agentId key.x)
    (installed : world.home.Installed agentId key.x) : world.Settled key := by
  intro created isCreated sameKey _
  rw [(assigns created isCreated).mpr sameKey, sameKey]
  exact installed

/-- The key and the record of an agent are written, and the key is settled then. -/
theorem installAgent_guarded (kept : Kept site world) {authority : String} {agent : AgentView}
    {key? : Option PrivateJwk} {read : Except CliError WorkloadView}
    (assigns : isAgentId agent.agentId = true → ∀ key, key? = some key →
      world.origin.Assigns agent.agentId key.x) :
    Guarded site world
      (do
        writeWorkloadKey agent.agentId key?
        let workload ← Program.ofExcept read
        writeAgent authority agent workload)
      fun after result => Still world after ∧
        (result = .ok () → ∀ key, key? = some key → after.Settled key) := by
  refine .bind ((writeWorkloadKey_guarded kept assigns).imp ?_)
  rintro between result keptBetween ⟨still, installs⟩
  cases result with
  | error problem => exact ⟨still, nofun⟩
  | ok _ =>
      refine .bind (guarded_ofExcept keptBetween ?_)
      cases read with
      | error problem => exact ⟨still, nofun⟩
      | ok workload =>
          refine (writeAgent_guarded keptBetween).imp ?_
          rintro after result - ⟨stillAfter, keys⟩
          refine ⟨still.trans stillAfter, fun _ key isKey => ?_⟩
          obtain ⟨isId, isInstalled⟩ := installs rfl
          refine @Origin.Assigns.settled after agent.agentId key ?_ ?_
          · rw [(still.trans stillAfter).origin]
            exact assigns isId key isKey
          · have installed := isInstalled key isKey
            rw [Home.Installed] at installed ⊢
            rw [keys]
            exact installed

/-! ## An operation in the journal -/

variable {entry : OperationEntry} {answer : Option OperationAnswer} {operation : Operation}

/-- The effect of an operation is applied to the home. -/
theorem applyOperation_guarded (kept : Kept site world) {authority : String}
    (isFiled : IsFiled site name entry)
    (isDeleted : entry.operation = .agentDelete → ∀ created ∈ world.origin.created,
      entry.target = some created.1 → (world.home.agents created.1).isSome = true →
        created.1 ∈ world.origin.deleted)
    (assigns : ∀ draft, entry.operation = .agentCreate → entry.body.params = .agent draft →
      ∀ agent, answer.bind OperationAnswer.agent = some agent → isAgentId agent.agentId = true →
        agent.workload.isSome = true →
        world.origin.Assigns agent.agentId draft.workloadPublicJwk) :
    Guarded site world (applyOperation authority entry answer) fun after result =>
      Still world after ∧
        (result = .ok () → ∀ key, entry.workloadKey = some key → after.Settled key) := by
  rw [applyOperation]
  split
  next isDelete =>
    have noKey : ∀ key, entry.workloadKey ≠ some key := by
      intro key isKey
      have isCreate := (isFiled.carries.key key isKey).1
      rw [isDelete] at isCreate
      cases isCreate
    refine .bind (.ensure kept (fun isId => ?_) fun _ => ⟨.refl world, nofun⟩)
    refine .bind (guarded_readAgent kept ?_ ⟨.refl world, nofun⟩)
    dsimp only
    split
    next => exact ⟨kept, .refl world, fun _ key isKey => absurd isKey (noKey key)⟩
    next record isRecord =>
      refine (guarded_removeAgent kept ?_).imp ?_
      · intro created member same
        refine isDeleted isDelete created member ?_ ?_
        · cases isTarget : entry.target with
          | none =>
              rw [isTarget] at isId
              exact absurd isId (by decide)
          | some target =>
              rw [isTarget] at same
              rw [same]
              rfl
        · rw [same, isRecord]
          rfl
      · exact fun after result _ still => ⟨still, fun _ key isKey => absurd isKey (noKey key)⟩
  next isCreate =>
    split
    next => exact ⟨kept, .refl world, nofun⟩
    next agent isAgent =>
      split
      next => exact ⟨kept, .refl world, nofun⟩
      next workload isWorkload =>
        refine .bind (.ensure kept (fun _ => ?_)
          fun _ => ⟨.refl world, nofun⟩)
        refine @installAgent_guarded site world kept authority agent entry.workloadKey
          (.ok workload) ?_
        intro isId key isKey
        obtain ⟨-, draft, isDraft, same⟩ := isFiled.carries.key key isKey
        rw [same]
        exact assigns draft isCreate isDraft agent isAgent isId (by rw [isWorkload]; rfl)
  next notDelete notCreate =>
    refine ⟨kept, .refl world, fun _ key isKey => ?_⟩
    exact absurd (isFiled.carries.key key isKey).1 notCreate

/-- No agent has the workload key of the entry, and no invite its secret. -/
structure IsUnused (site : Site) (world : World) (entry : OperationEntry) : Prop where
  key : ∀ key, entry.workloadKey = some key → ∀ created ∈ world.origin.created, created.2 ≠ key.x
  secret : ∀ secret, entry.inviteSecret = some secret →
    site.sha256Hex secret ∉ world.origin.invites

/-- The entry of an operation that was not accepted can go. -/
theorem IsUnused.isFree (unused : IsUnused site world entry)
    (isEntry : world.home.entryOf name = some (.operation entry)) : IsFree site world name := by
  constructor
  · intro old key isOld isKey created isCreated same
    obtain rfl : .operation entry = old := Option.mem_unique isEntry isOld
    exact absurd same (unused.key key isKey created isCreated)
  · intro old secret isOld isSecret isInvite
    obtain rfl : .operation entry = old := Option.mem_unique isEntry isOld
    exact absurd isInvite (unused.secret secret isSecret)

section

variable (kept : Kept site world) (isEntry : world.home.entryOf name = some (.operation entry))
include kept isEntry

/-- The entry of an operation can be marked. -/
theorem Kept.marked_isWritable : IsWritable site world name (Entry.operation entry).marked := by
  obtain ⟨isFiled, sentBefore⟩ := kept.operation name entry isEntry
  constructor
  · intro old key isOld isKey
    obtain rfl : .operation entry = old := Option.mem_unique isEntry isOld
    exact .inl isKey
  · intro old secret isOld isSecret
    obtain rfl : .operation entry = old := Option.mem_unique isEntry isOld
    exact isSecret
  · rintro rfl
    obtain ⟨journal, isJoin⟩ := kept.join _ isEntry
    cases isJoin
  · intro journal isJoin
    cases isJoin
  · intro filed isMarked
    obtain rfl := Entry.operation.inj isMarked
    exact ⟨⟨isFiled.name, isFiled.operation, isFiled.target, isFiled.carries⟩, sentBefore⟩

/-- What becomes of the entry of an operation that failed. -/
theorem keepOrFree_guarded {original : Bool} {problem : CliError}
    (unused : original = true → ∀ status code message, problem = .meshApi status code message →
      isDefinitive status = true → IsUnused site world entry) :
    Guarded site world (keepOrFree name (.operation entry) original problem) fun _ _ => True := by
  cases problem with
  | outcomeUnknown committed =>
      rw [keepOrFree]
      split
      · exact ⟨kept, trivial⟩
      · exact guarded_writeJournal kept (kept.marked_isWritable isEntry) trivial trivial trivial
  | meshApi status code message =>
      rw [keepOrFree]
      split
      next definitive =>
        refine (guarded_removeJournal kept fun _ => ?_).imp fun _ _ _ _ => trivial
        exact (unused definitive.1 status code message rfl definitive.2).isFree isEntry
      next => exact ⟨kept, trivial⟩
  | localState | typeError | fileFailed => exact ⟨kept, trivial⟩

end

/-- The status of an error is that of the answer. -/
theorem Response.status?_of_error {Body : Type} {response : Response Body} {status : Nat}
    {code message : Option String}
    (isError : response.read true = .error (.meshApi status code message)) :
    response.status? = some status := by
  cases response with
  | lost => simp [Response.read] at isError
  | unreadable other tooLarge =>
      simp only [Response.read] at isError
      split at isError
      · cases isError
      · split at isError
        · cases isError
        · simp only [Except.error.injEq, CliError.meshApi.injEq] at isError
          rw [Response.status?, isError.1]
  | answered other error text body =>
      simp only [Response.read] at isError
      split at isError
      · cases isError
      · split at isError
        · cases isError
        · split at isError
          · cases isError
          · simp only [Except.error.injEq, CliError.meshApi.injEq] at isError
            rw [Response.status?, isError.1]

/-- A mutating request fails with a status, or with an unknown outcome. -/
theorem Response.read_error {Body : Type} {response : Response Body} {problem : CliError}
    (isError : response.read true = .error problem) :
    (∃ committed, problem = .outcomeUnknown committed) ∨
      ∃ status code message, problem = .meshApi status code message := by
  cases response with
  | lost =>
      simp only [Response.read, if_true, Except.error.injEq] at isError
      exact .inl ⟨false, isError.symm⟩
  | unreadable status tooLarge =>
      simp only [Response.read] at isError
      split at isError
      · cases isError
      · split at isError
        · exact .inl ⟨false, (Except.error.inj isError).symm⟩
        · exact .inr ⟨_, _, _, (Except.error.inj isError).symm⟩
  | answered status error text body =>
      simp only [Response.read] at isError
      split at isError
      · cases isError
      · split at isError
        · cases isError
        · split at isError
          · exact .inl ⟨false, (Except.error.inj isError).symm⟩
          · exact .inr ⟨_, _, _, (Except.error.inj isError).symm⟩

/-- A definitive error is a refusal by the origin. -/
theorem Response.isRefusal_of_definitive {Body : Type} {response : Response Body} {status : Nat}
    {code message : Option String}
    (isError : response.read true = .error (.meshApi status code message))
    (definitive : isDefinitive status = true) : response.isRefusal = true := by
  rw [Response.isRefusal, Response.status?_of_error isError]
  exact definitive

/-- A refused operation leaves the origin as it is. -/
theorem World.operate_refused {body : OperationBody} {choice : Choice}
    (refused : choice.commits = false) : world.operate body choice = world.origin := by
  rw [World.operate, if_neg]
  simp [refused]

/-- `sendJournaled` of the operation that a journal entry is of. -/
theorem sendOperation_guarded (kept : Kept site world) {authority : String}
    {entry : OperationEntry} {original retain : Bool}
    (isEntry : world.home.entryOf name = some (.operation entry))
    (unused : original = true → IsUnused site world entry)
    (noSecret : retain = false → entry.inviteSecret = none) :
    Guarded site world (sendOperation authority name entry original retain) fun after result =>
      retain = true → ∀ answer, result = .ok answer →
        after.home.entryOf name = some (.operation entry) ∧
          ∀ key, entry.workloadKey = some key → after.Settled key := by
  have isFiled := (kept.operation name entry isEntry).1
  rw [sendOperation]
  refine .bind (.outcome (guarded_ask! kept fun choice isPossible accountable => ?_))
  refine ⟨kept.operate isEntry choice, ?_⟩
  simp only [perform]
  have keptSent := kept.operate isEntry choice
  cases isRead : choice.operated.read true with
  | error problem =>
      refine .bind ((keepOrFree_guarded keptSent isEntry ?_).imp ?_)
      · rintro isOriginal status code message rfl definitive
        have refused := isPossible (Response.isRefusal_of_definitive isRead definitive)
        have same := @World.operate_refused world entry.body choice refused
        refine ⟨?_, ?_⟩
        · rw [same]
          exact (unused isOriginal).key
        · rw [same]
          exact (unused isOriginal).secret
      · intro after result keptAfter _
        cases result with
        | error cause => rintro _ _ ⟨⟩
        | ok _ => exact ⟨keptAfter, by rintro _ _ ⟨⟩⟩
  | ok answer =>
      refine .bind ((applyOperation_guarded keptSent isFiled ?_ ?_).imp ?_)
      · intro isDelete created member isTarget isRecord
        rw [Accountable, isFiled.operation, isDelete] at accountable
        refine accountable ?_ created member (isFiled.target.trans isTarget) isRecord
        rw [isRead]
        rfl
      · intro draft isCreate isParams agent isAgent
        rw [Accountable, isFiled.operation, isCreate, isParams] at accountable
        refine accountable agent ?_
        rw [operatedAgent, isRead]
        exact isAgent
      · rintro after result keptAfter ⟨still, settles⟩
        have isEntryAfter : after.home.entryOf name = some (.operation entry) :=
          (still.entryOf name).trans isEntry
        cases result with
        | error cause => rintro _ _ ⟨⟩
        | ok _ =>
            dsimp only
            split
            next retains => exact ⟨keptAfter, fun _ _ _ => ⟨isEntryAfter, settles rfl⟩⟩
            next removes =>
              refine .bind ((guarded_removeJournal keptAfter fun _ => ?_).imp ?_)
              · constructor
                · intro old key isOld isKey
                  obtain rfl : .operation entry = old :=
                    Option.mem_unique isEntryAfter isOld
                  exact settles rfl key isKey
                · intro old secret isOld isSecret
                  obtain rfl : .operation entry = old :=
                    Option.mem_unique isEntryAfter isOld
                  have none := noSecret (by simpa using removes)
                  rw [Entry.createdSecret, none] at isSecret
                  cases isSecret
              · intro final result keptFinal _
                cases result with
                | error cause => rintro _ _ ⟨⟩
                | ok _ => exact ⟨keptFinal, fun retains => absurd retains removes⟩

/-! ## A new operation -/

/-- What `buildOwnerOperation` signs. -/
theorem buildOwnerOperation_ok {authority controllerId idempotencyKey : String}
    {ownerKey : PrivateJwk} {challenge : Challenge} {target : Option String} {params : Params}
    {workloadKey : Option PrivateJwk} {body : OperationBody}
    (builds : buildOwnerOperation site authority controllerId ownerKey challenge operation target
      params idempotencyKey workloadKey = .ok body) :
    body.operation = operation ∧ body.target = target ∧ body.params = params ∧
      body.idempotencyKey = idempotencyKey := by
  obtain ⟨-, returns⟩ := require_bind_ok.mp builds
  obtain rfl := Except.ok.inj returns
  exact ⟨rfl, rfl, rfl, rfl⟩

/-- The name of an operation is not that of the join. -/
theorem opName_ne_join (key : String) : "op-" ++ key ≠ "join" := by
  intro same
  have chars := congrArg String.toList same
  simp at chars

theorem writeLink_guarded (kept : Kept site world) {link : String} :
    Guarded site world (writeLink link) fun after result =>
      Still world after ∧ (result = .ok () → link ∈ after.written) := by
  refine .bind (.outcome ((guarded_stdout kept).imp ?_))
  rintro after result keptAfter ⟨still, writes⟩
  cases result with
  | error problem => exact ⟨keptAfter, still, nofun⟩
  | ok _ => exact ⟨keptAfter, still, fun _ => writes rfl link rfl⟩

/-- The link of an invite ends in its secret. -/
theorem inviteOutcome_ok {authority secret link : String}
    (returns : inviteOutcome authority answer secret = .ok link) :
    ∃ base, link = base ++ "." ++ secret := by
  rw [inviteOutcome] at returns
  obtain ⟨answer, -, returns⟩ := expect_bind_ok.mp returns
  obtain ⟨inviteId, -, returns⟩ := expect_bind_ok.mp returns
  obtain ⟨-, returns⟩ := require_bind_ok.mp returns
  exact ⟨_, (Except.ok.inj returns).symm⟩

/-- The delivery of an invite: its link is written, and with it the secret. -/
theorem deliverInvite_guarded (kept : Kept site world) {authority secret : String} :
    Guarded site world
      (do
        let link ← Program.ofExcept (inviteOutcome authority answer secret)
        writeLink link)
      fun after result => Still world after ∧
        (result = .ok () → after.WroteSecret site (site.sha256Hex secret)) := by
  refine .bind (guarded_ofExcept kept ?_)
  cases links : inviteOutcome authority answer secret with
  | error problem => exact ⟨.refl world, nofun⟩
  | ok link =>
      refine (writeLink_guarded kept).imp ?_
      rintro after result - ⟨still, writes⟩
      obtain ⟨base, same⟩ := inviteOutcome_ok links
      exact ⟨still, fun succeeds => ⟨link, writes succeeds, base, secret, same, rfl⟩⟩

/-- A new entry is written where nothing was. -/
theorem IsFiled.isWritable (isFiled : IsFiled site name entry)
    (absent : world.home.entryOf name = none)
    (unsent : ∀ sent ∈ world.sentOperations, sent.idempotencyKey ≠ entry.body.idempotencyKey) :
    IsWritable site world name (.operation entry) := by
  constructor
  · intro old key isOld
    rw [absent] at isOld
    cases isOld
  · intro old secret isOld
    rw [absent] at isOld
    cases isOld
  · intro isJoin
    exact absurd (isFiled.name.symm.trans isJoin) (opName_ne_join _)
  · exact nofun
  · intro filed isThis
    obtain rfl := Entry.operation.inj isThis
    exact ⟨isFiled, fun sent isSent same => absurd same (unsent sent isSent)⟩

/-- A program that writes the secret of an invite. -/
def Delivers (site : Site) (inviteSecret : Option String)
    (program : Option OperationAnswer → Task Unit) : Prop :=
  ∀ world answer, Kept site world → Guarded site world (program answer) fun after result =>
    Still world after ∧ (result = .ok () →
      ∀ secret, inviteSecret = some secret → after.WroteSecret site (site.sha256Hex secret))

/-- The entry of an operation without a workload key goes after its secret was written. -/
theorem deliverAndRemove_guarded (kept : Kept site world)
    {program : Option OperationAnswer → Task Unit}
    (isEntry : world.home.entryOf name = some (.operation entry)) (noKey : entry.workloadKey = none)
    (delivers : Delivers site entry.inviteSecret program) :
    Guarded site world
      (do
        program answer
        ask! (.removeJournal name) id
        pure answer)
      fun _ _ => True := by
  refine .bind ((delivers world answer kept).imp ?_)
  rintro delivered result keptDelivered ⟨still, writes⟩
  cases result with
  | error problem => trivial
  | ok _ =>
  have isEntryDelivered := (still.entryOf name).trans isEntry
  refine .bind ((guarded_removeJournal keptDelivered fun _ => ?_).imp ?_)
  · constructor
    · intro old key isOld isKey
      obtain rfl : .operation entry = old := Option.mem_unique isEntryDelivered isOld
      exact absurd (noKey.symm.trans isKey) (by simp)
    · intro old secret isOld isSecret _
      obtain rfl : .operation entry = old := Option.mem_unique isEntryDelivered isOld
      exact writes rfl secret isSecret
  · intro final result keptFinal _
    cases result with
    | error problem => trivial
    | ok _ => exact ⟨keptFinal, trivial⟩

/-- A new entry is written and sent, and its result delivered. -/
theorem fileOperation_guarded (kept : Kept site world) {authority : String}
    {deliver : Option (Option OperationAnswer → Task Unit)} (isFiled : IsFiled site name entry)
    (absent : world.home.entryOf name = none)
    (unsent : ∀ sent ∈ world.sentOperations, sent.idempotencyKey ≠ entry.body.idempotencyKey)
    (unused : IsUnused site world entry) (silent : deliver = none → entry.inviteSecret = none)
    (delivers : ∀ program, deliver = some program →
      entry.workloadKey = none ∧ Delivers site entry.inviteSecret program) :
    Guarded site world
      (do
        ask! (.writeJournal name (.operation entry)) id
        let answer ← sendOperation authority name entry true deliver.isSome
        match deliver with
        | none => pure answer
        | some deliver => do
            deliver answer
            ask! (.removeJournal name) id
            pure answer)
      fun _ _ => True := by
  have writable := isFiled.isWritable absent unsent
  have isEntry : (world.home.put name (.operation entry)).entryOf name = some (.operation entry) := by
    simp
  refine .bind (guarded_writeJournal kept writable ?_ trivial trivial)
  refine .bind ((sendOperation_guarded (kept.put writable) isEntry
    (fun _ => ⟨unused.key, unused.secret⟩) ?_).imp ?_)
  · intro isSilent
    cases deliver with
    | none => exact silent rfl
    | some program => cases isSilent
  · intro sent result keptSent retains
    cases result with
    | error problem => trivial
    | ok answer =>
        cases deliver with
        | none => exact ⟨keptSent, trivial⟩
        | some program =>
            obtain ⟨noKey, delivers⟩ := delivers program rfl
            exact deliverAndRemove_guarded keptSent (retains rfl answer rfl).1 noKey delivers

/-- `ownerOperation`: what is new is in the journal before it is sent. -/
theorem ownerOperation_guarded (kept : Kept site world) (session : Session) {target : Option String}
    {params : Params} {workloadKey : Option PrivateJwk} {inviteSecret : Option String}
    {deliver : Option (Option OperationAnswer → Task Unit)}
    (carries : Carries site operation params workloadKey inviteSecret)
    (unusedKey : ∀ key, workloadKey = some key → ∀ created ∈ world.origin.created,
      created.2 ≠ key.x) (unusedSecret : ∀ secret, inviteSecret = some secret →
      site.sha256Hex secret ∉ world.origin.invites) (silent : deliver = none → inviteSecret = none)
    (delivers : ∀ program, deliver = some program →
      workloadKey = none ∧ Delivers site inviteSecret program) :
    Guarded site world
      (ownerOperation site session operation target params workloadKey inviteSecret deliver)
      fun _ _ => True := by
  refine .bind ((ownerGate_guarded kept session).imp ?_)
  intro gated result keptGated still
  cases result with
  | error problem => trivial
  | ok _ =>
  refine .bind (guarded_operationChallenge keptGated fun response => ?_)
  cases response.challenge with
  | error problem => trivial
  | ok challenge =>
  refine .bind (guarded_ask keptGated fun choice isPossible _ => ⟨keptGated, ?_⟩)
  obtain ⟨isNew, -, unsent⟩ := isPossible
  refine .bind (guarded_ofExcept keptGated ?_)
  split
  next body builds =>
    obtain ⟨isOperation, isTarget, isParams, isKey⟩ := buildOwnerOperation_ok builds
    refine fileOperation_guarded keptGated ⟨rfl, isOperation, isTarget, isParams ▸ carries⟩ ?_ ?_
      ⟨?_, ?_⟩ silent delivers
    · rw [isKey]
      exact Option.isNone_iff_eq_none.mp isNew
    · intro sent isSent same
      exact unsent sent isSent (same.trans isKey)
    · rw [still.origin]
      exact unusedKey
    · rw [still.origin]
      exact unusedSecret
  next => trivial

/-- An operation that keeps nothing. -/
theorem carries_nothing : Carries site operation .empty none none := by
  constructor
  · exact nofun
  · exact nofun
  · exact nofun
  · exact nofun

theorem addAgent_guarded (kept : Kept site world) (handle agentName description : String)
    (readOnly : Bool) :
    Guarded site world (addAgent site handle agentName description readOnly) fun _ _ => True := by
  refine .bind ((openSession_guarded kept).imp ?_)
  rintro opened result - rfl
  cases result with
  | error problem => trivial
  | ok session =>
  refine .bind (guarded_ask kept fun choice isPossible _ => ⟨kept, ?_⟩)
  refine .bind ((ownerOperation_guarded kept session ?_ ?_ ?_ ?_ ?_).imp ?_)
  · constructor
    · rintro - draft isParams
      obtain rfl := Params.agent.inj isParams
      exact ⟨choice.key, rfl, rfl⟩
    · intro key isKey
      obtain rfl := Option.some.inj isKey
      exact ⟨rfl, _, rfl, rfl⟩
    · exact nofun
    · exact nofun
  · intro key isKey
    obtain rfl := Option.some.inj isKey
    exact isPossible
  · exact nofun
  · exact fun _ => rfl
  · exact nofun
  · intro after result keptAfter _
    cases result with
    | error problem => trivial
    | ok _ => exact ⟨keptAfter, trivial⟩

theorem createInvite_guarded (kept : Kept site world) (kind : String)
    (role displayNameHint emailHint : Option String) (expiresInSeconds : Option Nat) :
    Guarded site world (createInvite site kind role displayNameHint emailHint expiresInSeconds)
      fun _ _ => True := by
  refine .bind ((openSession_guarded kept).imp ?_)
  rintro opened result - rfl
  cases result with
  | error problem => trivial
  | ok session =>
  refine .bind (guarded_ask kept fun choice isPossible _ => ⟨kept, ?_⟩)
  obtain ⟨notEmpty, isNew⟩ := isPossible
  refine .bind ((ownerOperation_guarded kept session ?_ ?_ ?_ ?_ ?_).imp ?_)
  · constructor
    · exact nofun
    · exact nofun
    · rintro - invite isParams
      obtain rfl := Params.invite.inj isParams
      exact ⟨choice.text, rfl, rfl⟩
    · intro secret isSecret
      obtain rfl := Option.some.inj isSecret
      exact ⟨notEmpty, rfl⟩
  · exact nofun
  · intro secret isSecret
    obtain rfl := Option.some.inj isSecret
    exact isNew
  · exact nofun
  · intro program isProgram
    obtain rfl := Option.some.inj isProgram
    refine ⟨rfl, fun between answer keptBetween => (deliverInvite_guarded keptBetween).imp ?_⟩
    rintro after result - ⟨still, writes⟩
    refine ⟨still, fun succeeds secret isSecret => ?_⟩
    obtain rfl := Option.some.inj isSecret
    exact writes succeeds
  · intro after result keptAfter _
    cases result with
    | error problem => trivial
    | ok _ => exact ⟨keptAfter, trivial⟩

theorem operateOn_guarded (kept : Kept site world) (operation : Operation) (target : String) :
    Guarded site world (operateOn site operation target) fun _ _ => True := by
  refine .bind ((openSession_guarded kept).imp ?_)
  rintro opened result - rfl
  cases result with
  | error problem => trivial
  | ok session =>
  refine .bind ((ownerOperation_guarded kept session carries_nothing ?_ ?_ ?_ ?_).imp ?_)
  · exact nofun
  · exact nofun
  · exact fun _ => rfl
  · exact nofun
  · intro after result keptAfter _
    cases result with
    | error problem => trivial
    | ok _ => exact ⟨keptAfter, trivial⟩

end

end Triangle.OwnerCli
