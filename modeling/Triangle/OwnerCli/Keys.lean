import Triangle.OwnerCli.Host

/-!
# Keys that are kept

The invariant of a home: for whatever the origin has accepted from it, the owner
key is in its file, the workload key of an agent that is not deleted is in a
journal entry or installed under the id of the agent, and the secret of an invite
is in a journal entry or was written. `Accountable` names the answers after which
this can fail.
-/

namespace Triangle.OwnerCli

open Triangle.Std Triangle.Semantics

/-! ## Where keys are -/

/-- A journal entry holds a workload key with this public part. -/
def Home.HoldsKey (home : Home) (x : String) : Prop :=
  ∃ name entry key, home.entryOf name = some entry ∧ entry.workloadKey = some key ∧ key.x = x

/-- The workload key of an agent is installed. -/
def Home.Installed (home : Home) (agentId x : String) : Prop :=
  ∃ key, home.workloadKeys agentId = some key ∧ key.x = x

/-- The user has abandoned an entry with this workload key. -/
def World.AbandonedKey (world : World) (x : String) : Prop :=
  ∃ entry ∈ world.abandoned, ∃ key, entry.workloadKey = some key ∧ key.x = x

section

variable (site : Site)

/-- A journal entry holds an invite secret with this hash. -/
def Home.HoldsSecret (home : Home) (hash : String) : Prop :=
  ∃ name entry secret, home.entryOf name = some entry ∧ entry.createdSecret = some secret ∧
    site.sha256Hex secret = hash

/-- A link with an invite secret of this hash was written. -/
def World.WroteSecret (world : World) (hash : String) : Prop :=
  ∃ link ∈ world.written, ∃ base secret, link = base ++ "." ++ secret ∧ site.sha256Hex secret = hash

/-- The user has abandoned an entry with this invite secret. -/
def World.AbandonedSecret (world : World) (hash : String) : Prop :=
  ∃ entry ∈ world.abandoned, ∃ secret, entry.createdSecret = some secret ∧
    site.sha256Hex secret = hash

end

/-- What a join signs for a challenge. -/
def JoinDraft.envelope (draft : JoinDraft) (challengeId : String) : RedemptionEnvelope where
  authority := draft.authority
  inviteId := draft.inviteId
  inviteSecret := draft.inviteSecret
  challengeId := challengeId
  ownerPublicJwk := draft.ownerKey.x
  deviceLabel := draft.deviceLabel
  displayName := draft.displayName
  agent := draft.agent

/-- The redemption is signed for this draft, with some challenge. -/
def JoinDraft.Signs (draft : JoinDraft) (body : Redemption) : Prop :=
  body.toRedemptionEnvelope = draft.envelope body.challengeId

/-- The draft of the agent carries the public part of the workload key. -/
def JoinDraft.IsPaired (draft : JoinDraft) : Prop :=
  draft.agent.map AgentDraft.workloadPublicJwk = draft.workloadKey.map PrivateJwk.x

/-- What is sent again is the body in the journal, or it is signed again with the same keys. -/
def Resends (begun : Option Entry) (body : Redemption) : Prop :=
  ∀ journal, begun = some (.join journal) → body = journal.body ∨ journal.toJoinDraft.Signs body

/-- The guarantee of the journal. -/
structure KeysKept (site : Site) (world : World) : Prop where
  owner : ∀ x ∈ world.origin.owners, ∃ key, world.home.ownerKey = some key ∧ key.x = x
  workload : ∀ created ∈ world.origin.created, created.1 ∉ world.origin.deleted →
    world.home.HoldsKey created.2 ∨ world.home.Installed created.1 created.2 ∨
      world.AbandonedKey created.2
  secret : ∀ hash ∈ world.origin.invites,
    world.home.HoldsSecret site hash ∨ world.WroteSecret site hash ∨ world.AbandonedSecret site hash
  operations_resent : ∀ first ∈ world.sentOperations, ∀ second ∈ world.sentOperations,
    first.idempotencyKey = second.idempotencyKey → first = second
  joins_resent : ∀ sent ∈ world.sentRedemptions, Resends sent.1 sent.2

/-! ## The condition -/

/-- The agent that a join answer names. -/
def joinedAgent (response : Response JoinAnswer) : Option AgentView :=
  match response.read true with
  | .ok answer => (JoinAnswer.joined answer).bind fun joined => joined.1.agent
  | .error _ => none

/-- The join answer names a controller and no agent. -/
def omitsAgent (response : Response JoinAnswer) : Bool :=
  match response.read true with
  | .ok answer => (JoinAnswer.joined answer).any fun joined => joined.1.agent.isNone
  | .error _ => false

/-- The agent that the answer to an operation names. -/
def operatedAgent (response : Response OperationAnswer) : Option AgentView :=
  match response.read true with
  | .ok answer => answer.bind OperationAnswer.agent
  | .error _ => none

/-- The agent of this id, and no other, was made for this key. -/
def Origin.Assigns (origin : Origin) (agentId x : String) : Prop :=
  ∀ created ∈ origin.created, created.1 = agentId ↔ created.2 = x

instance (origin : Origin) (agentId x : String) : Decidable (origin.Assigns agentId x) :=
  inferInstanceAs (Decidable (∀ _ ∈ _, _))

/-- The answers that the journal can answer for. Where the origin created an agent with the
workload key of a join, the redemption is not answered by 408, 425 or 429 when it is first
sent, nor by a controller without an agent. An answer that names an agent names the one that was
made for the key. A deletion that is answered as done deleted the agent. -/
def Accountable (site : Site) (world : World) (request : Call) (choice : Choice) : Prop :=
  match request with
  | .redeem _ body => ∀ draft ∈ body.agent,
      ((world.mode = .joining ∧ choice.redeemed.status?.any (· ∈ ambiguous4xx) = true) ∨
          omitsAgent choice.redeemed = true →
        ∀ created ∈ (world.redeem site body choice).created,
          created.2 ≠ draft.workloadPublicJwk) ∧
      ∀ agent ∈ joinedAgent choice.redeemed, isAgentId agent.agentId = true →
        (world.redeem site body choice).Assigns agent.agentId draft.workloadPublicJwk
  | .operate _ _ body =>
      match body.operation, body.params with
      | .agentCreate, .agent draft =>
          ∀ agent ∈ operatedAgent choice.operated, isAgentId agent.agentId = true →
            agent.workload.isSome = true →
            (world.operate body choice).Assigns agent.agentId draft.workloadPublicJwk
      | .agentDelete, _ => (choice.operated.read true).isOk = true →
          ∀ created ∈ (world.operate body choice).created, body.target = some created.1 →
            (world.home.agents created.1).isSome = true →
              created.1 ∈ (world.operate body choice).deleted
      | _, _ => True
  | _ => True

/-! ## The invariant -/

/-- What an operation keeps beside its parameters: the workload key of the agent that it
creates, and the secret of the invite. -/
structure Carries (site : Site) (operation : Operation) (params : Params)
    (workloadKey : Option PrivateJwk) (inviteSecret : Option String) : Prop where
  agent : operation = .agentCreate → ∀ draft, params = .agent draft →
    ∃ key, workloadKey = some key ∧ key.x = draft.workloadPublicJwk
  key : ∀ key, workloadKey = some key → operation = .agentCreate ∧
    ∃ draft, params = .agent draft ∧ key.x = draft.workloadPublicJwk
  invite : operation = .inviteCreate → ∀ invite, params = .invite invite →
    ∃ secret, inviteSecret = some secret ∧ site.sha256Hex secret = invite.secretSha256
  secret : ∀ secret, inviteSecret = some secret → secret ≠ "" ∧ operation = .inviteCreate

/-- The entry of an operation is under its idempotency key, and keeps what its parameters need. -/
structure IsFiled (site : Site) (name : String) (entry : OperationEntry) : Prop where
  name : name = "op-" ++ entry.body.idempotencyKey
  operation : entry.body.operation = entry.operation
  target : entry.body.target = entry.target
  carries : Carries site entry.operation entry.body.params entry.workloadKey entry.inviteSecret

/-- The journal of a join is of the owner key of this device, and signed. -/
structure IsJoining (world : World) (journal : JoinJournal) : Prop where
  ownerKey : world.home.ownerKey = some journal.ownerKey
  signs : journal.toJoinDraft.Signs journal.body
  paired : journal.toJoinDraft.IsPaired

theorem IsJoining.congr {world after : World} {journal : JoinJournal}
    (isJoining : IsJoining world journal) (same : after.home.ownerKey = world.home.ownerKey) :
    IsJoining after journal :=
  ⟨same.trans isJoining.ownerKey, isJoining.signs, isJoining.paired⟩

/-- The invariant of the home and the origin. -/
structure Kept (site : Site) (world : World) : Prop extends KeysKept site world where
  join : ∀ entry, world.home.entryOf "join" = some entry → ∃ journal, entry = .join journal
  joining : ∀ name journal, world.home.entryOf name = some (.join journal) →
    name = "join" ∧ IsJoining world journal
  operation : ∀ name entry, world.home.entryOf name = some (.operation entry) →
    IsFiled site name entry ∧
      ∀ sent ∈ world.sentOperations, sent.idempotencyKey = entry.body.idempotencyKey →
        sent = entry.body
  unique : ∀ first ∈ world.origin.created, ∀ second ∈ world.origin.created,
    first.1 = second.1 ∨ first.2 = second.2 → first = second

section

variable {site : Site} {world after : World}

/-- Where no entry is new, only what the keys promise is left to see. -/
theorem Kept.of_entries (kept : Kept site world) (keys : KeysKept site after)
    (entries : ∀ name entry, after.home.entryOf name = some entry →
      world.home.entryOf name = some entry)
    (ownerKey : after.home.ownerKey = world.home.ownerKey)
    (operations : after.sentOperations = world.sentOperations)
    (created : after.origin.created = world.origin.created) : Kept site after where
  toKeysKept := keys
  join entry isEntry := kept.join entry (entries _ entry isEntry)
  joining name journal isEntry := by
    obtain ⟨isJoin, isJoining⟩ := kept.joining name journal (entries name _ isEntry)
    exact ⟨isJoin, isJoining.congr ownerKey⟩
  operation name entry isEntry := operations ▸ kept.operation name entry (entries name _ isEntry)
  unique := created ▸ kept.unique

/-- What the invariant reads. -/
theorem Kept.congr (kept : Kept site world) (ownerKey : after.home.ownerKey = world.home.ownerKey)
    (workloadKeys : after.home.workloadKeys = world.home.workloadKeys)
    (journal : after.home.journal = world.home.journal) (origin : after.origin = world.origin)
    (redemptions : after.sentRedemptions = world.sentRedemptions)
    (operations : after.sentOperations = world.sentOperations)
    (written : ∀ link ∈ world.written, link ∈ after.written)
    (abandoned : after.abandoned = world.abandoned) : Kept site after := by
  have entries : after.home.entryOf = world.home.entryOf := by
    funext name
    rw [Home.entryOf, Home.entryOf, journal]
  refine kept.of_entries ?_ (fun _ _ => by rw [entries]; exact id) ownerKey operations
    (congrArg Origin.created origin)
  constructor
  · rw [origin, ownerKey]
    exact kept.owner
  · simp only [Home.HoldsKey, Home.Installed, World.AbandonedKey, origin, entries, workloadKeys,
      abandoned]
    exact kept.workload
  · intro hash member
    rw [origin] at member
    simp only [Home.HoldsSecret, World.AbandonedSecret, entries, abandoned]
    refine (kept.secret hash member).imp_right (Or.imp_left ?_)
    rintro ⟨link, isWritten, holds⟩
    exact ⟨link, written link isWritten, holds⟩
  · rw [operations]
    exact kept.operations_resent
  · rw [redemptions]
    exact kept.joins_resent

end

end Triangle.OwnerCli
